/-!
# Decimal numerals

The numeral of a number is its digits without leading zeros, after a minus sign if the number is
negative.  Reading a numeral back is a left fold over its digits.
-/

namespace ApiSurvey

/-- The decimal digits of a natural number, the highest first; zero has the one digit `0`. -/
def digits (n : Nat) : List Char :=
  Nat.toDigits 10 n

/-- The number of decimal digits. -/
def digitCount (n : Nat) : Nat :=
  (digits n).length

/-- The decimal numeral of an integer. -/
def numeral : Int → List Char
  | .ofNat n => digits n
  | .negSucc n => '-' :: digits (n + 1)

/-- The value of a digit in a base of at most sixteen. -/
def digitValue? (base : Nat) (c : Char) : Option Nat :=
  let value :=
    if '0' ≤ c ∧ c ≤ '9' then c.toNat - '0'.toNat
    else if 'a' ≤ c ∧ c ≤ 'f' then c.toNat - 'a'.toNat + 10
    else if 'A' ≤ c ∧ c ≤ 'F' then c.toNat - 'A'.toNat + 10
    else 16
  if value < base then some value else none

/-- The number that the digits write in `base`, if all are digits; no digits write zero. -/
def readDigits? (base : Nat) (cs : List Char) : Option Nat :=
  cs.foldlM (fun n c => (digitValue? base c).map (n * base + ·)) 0

def isDigit (c : Char) : Bool :=
  '0' ≤ c && c ≤ '9'

/-- The sizes, counts and indices are the numbers that fit in 64 bits. -/
def sizeBound : Nat := Nat.pow 2 64

@[simp] theorem digits_zero : digits 0 = ['0'] := rfl

theorem digits_ne_nil (n : Nat) : digits n ≠ [] := by
  simp [digits]

theorem digits_injective {m n : Nat} (h : digits m = digits n) : m = n := by
  have := congrArg (Nat.ofDigitChars 10 · 0) h
  simpa [digits, Nat.ofDigitChars_ten_toDigits] using this

/-- Only digits are read as a number. -/
theorem isSome_digitValue?_of_readDigits? {base n : Nat} {cs : List Char}
    (h : readDigits? base cs = some n) : ∀ c ∈ cs, (digitValue? base c).isSome := by
  suffices hfrom : ∀ start n, cs.foldlM (fun n c => (digitValue? base c).map (n * base + ·)) start
      = some n → ∀ c ∈ cs, (digitValue? base c).isSome from hfrom 0 n h
  clear h
  induction cs with
  | nil => simp
  | cons d ds ih =>
    intro start n h c hc
    rw [List.foldlM_cons, Option.bind_eq_bind, Option.bind_eq_some_iff] at h
    obtain ⟨next, hnext, hrest⟩ := h
    obtain ⟨value, hvalue, -⟩ := Option.map_eq_some_iff.1 hnext
    rcases List.mem_cons.1 hc with rfl | hmem
    · rw [hvalue, Option.isSome_some]
    · exact ih next n hrest c hmem

/-- A digit in a base of at most sixteen is a numeral or a letter up to `f`. -/
theorem toNat_of_isSome_digitValue? {base : Nat} {c : Char} (hbase : base ≤ 16)
    (h : (digitValue? base c).isSome) :
    (48 ≤ c.toNat ∧ c.toNat ≤ 57) ∨ (97 ≤ c.toNat ∧ c.toNat ≤ 102)
      ∨ (65 ≤ c.toNat ∧ c.toNat ≤ 70) := by
  have hle : ∀ a b : Char, a ≤ b ↔ a.toNat ≤ b.toNat := fun _ _ => Iff.rfl
  simp only [digitValue?, hle] at h
  split at h
  · next hdigit => exact .inl hdigit
  · split at h
    · next hsmall => exact .inr (.inl hsmall)
    · split at h
      · next hcapital => exact .inr (.inr hcapital)
      · -- what is no digit has a value that no base reaches
        have hnot : ¬ 16 < base := by omega
        simp [hnot] at h

end ApiSurvey
