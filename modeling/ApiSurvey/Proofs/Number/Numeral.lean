import ApiSurvey.Number.Numeral
import Mathlib.Data.List.Basic
import Mathlib.Data.List.Induction
import Mathlib.Tactic.Common

/-!
# Canonical numerals

The canonical numeral of an integer has a minus sign if the integer is negative and then digits
only, with no zero in front of others.  There is exactly one for each integer: the digits are read
back from the last one, so what is in front of it is the canonical writing of the tenth part.
-/

namespace ApiSurvey

/-- Digits that are the canonical writing of a natural number: at least one of them, and no zero in
front of others. -/
structure CanonicalDigits (n : Nat) (ds : List Char) : Prop where
  all_isDigit : ∀ c ∈ ds, isDigit c = true
  ne_nil : ds ≠ []
  lead : ds.head? = some '0' → ds = ['0']
  value : readDigits? 10 ds = some n

/-- The canonical numeral of an integer: its digits, after a minus sign just if it is negative. -/
inductive CanonicalNumeral (i : Int) : List Char → Prop
  | negative {ds : List Char} (hi : i < 0) (h : CanonicalDigits i.natAbs ds) :
      CanonicalNumeral i ('-' :: ds)
  | nonneg {ds : List Char} (hi : 0 ≤ i) (h : CanonicalDigits i.natAbs ds) : CanonicalNumeral i ds

variable {c : Char} {ds : List Char} {n : Nat} {i j : Int}

/-! ## Digits -/

lemma isDigit_iff : isDigit c = true ↔ 48 ≤ c.toNat ∧ c.toNat ≤ 57 := by
  simp only [isDigit, Bool.and_eq_true, decide_eq_true_eq]
  rfl

lemma ne_of_isDigit {d : Char} (hc : isDigit c = true) (hd : isDigit d = false) : c ≠ d := by
  rintro rfl
  rw [hc] at hd
  contradiction

lemma isDigit_of_mem_digits (h : c ∈ digits n) : isDigit c = true :=
  Nat.isDigit_of_mem_toDigits (by decide) (by decide) h

lemma digitValue?_of_isDigit (h : isDigit c = true) : digitValue? 10 c = some (c.toNat - 48) := by
  obtain ⟨hlow, hhigh⟩ := isDigit_iff.1 h
  have hc : '0' ≤ c ∧ c ≤ '9' := by simpa [isDigit] using h
  have hlt : c.toNat - '0'.toNat < 10 := by
    have hzero : '0'.toNat = 48 := rfl
    omega
  simp only [digitValue?, if_pos hc, if_pos hlt]
  rfl

/-- Digits are read from the front, each as one more place. -/
lemma readDigits?_of_isDigit (h : ∀ c ∈ ds, isDigit c = true) :
    readDigits? 10 ds = some (Nat.ofDigitChars 10 ds 0) := by
  suffices hfrom : ∀ start, ds.foldlM (fun n c => (digitValue? 10 c).map (n * 10 + ·)) start
      = some (Nat.ofDigitChars 10 ds start) from hfrom 0
  induction ds with
  | nil => intro start; rfl
  | cons c ds ih =>
    intro start
    obtain ⟨hc, hds⟩ := List.forall_mem_cons.1 h
    rw [List.foldlM_cons, digitValue?_of_isDigit hc, Option.map_some, Option.bind_eq_bind,
      Option.bind_some, ih hds, Nat.ofDigitChars_cons, Nat.mul_comm]
    rfl

lemma readDigits?_digits (n : Nat) : readDigits? 10 (digits n) = some n := by
  rw [readDigits?_of_isDigit fun _ => isDigit_of_mem_digits, digits, Nat.ofDigitChars_ten_toDigits]

lemma digits_eq_ite (n : Nat) : digits n
    = if n < 10 then [n.digitChar] else digits (n / 10) ++ [(n % 10).digitChar] :=
  Nat.toDigits_eq_if (by decide)

/-- No zero stands in front. -/
lemma digits_of_head? (h : (digits n).head? = some '0') : n = 0 := by
  induction n using Nat.strongRecOn with
  | ind n ih =>
    rw [digits_eq_ite] at h
    split at h
    · exact Nat.digitChar_eq_zero.1 (Option.some.inj h)
    · rw [List.head?_append_of_ne_nil _ (digits_ne_nil _)] at h
      have hzero : n / 10 = 0 := ih (n / 10) (by omega) h
      omega

lemma canonicalDigits_digits (n : Nat) : CanonicalDigits n (digits n) where
  all_isDigit _ := isDigit_of_mem_digits
  ne_nil := digits_ne_nil n
  lead h := by rw [digits_of_head? h, digits_zero]
  value := readDigits?_digits n

lemma CanonicalDigits.ofDigitChars_eq (h : CanonicalDigits n ds) :
    Nat.ofDigitChars 10 ds 0 = n := by
  have hvalue := h.value
  rw [readDigits?_of_isDigit h.all_isDigit] at hvalue
  exact Option.some.inj hvalue

lemma digitChar_sub (h : isDigit c = true) : (c.toNat - 48).digitChar = c := by
  obtain ⟨hlow, hhigh⟩ := isDigit_iff.1 h
  rw [Char.ext_iff, ← UInt32.toNat_inj]
  have hnat : (c.toNat - 48).digitChar.toNat = c.toNat := by
    rw [Nat.toNat_digitChar_of_lt_ten (by omega)]
    omega
  exact hnat

/-- What stands in front of the last digit is canonical too, and does not begin with a zero. -/
lemma CanonicalDigits.front (h : CanonicalDigits n (ds ++ [c])) (hne : ds ≠ []) :
    CanonicalDigits (Nat.ofDigitChars 10 ds 0) ds ∧ ds.head? ≠ some '0' := by
  have hdigits : ∀ d ∈ ds, isDigit d = true :=
    fun d hd => h.all_isDigit d (List.mem_append_left _ hd)
  have hhead : ds.head? ≠ some '0' := by
    intro hzero
    have hlead := h.lead (by rwa [List.head?_append_of_ne_nil _ hne])
    exact hne (by simpa using congrArg List.dropLast hlead)
  exact ⟨⟨hdigits, hne, fun hzero => absurd hzero hhead, readDigits?_of_isDigit hdigits⟩, hhead⟩

/-- **Digits without leading zeros are the digits of the number that they write.** -/
theorem CanonicalDigits.eq_digits (h : CanonicalDigits n ds) : ds = digits n := by
  -- the last digit is the remainder by ten, and those in front of it write the tenth part
  induction ds using List.reverseRecOn generalizing n with
  | nil => exact absurd rfl h.ne_nil
  | append_singleton front c ih =>
    have hc : isDigit c = true := h.all_isDigit c (List.mem_append_right _ List.mem_cons_self)
    have hrange := isDigit_iff.1 hc
    have hlast : digits (c.toNat - 48) = [c] := by
      rw [digits_eq_ite, if_pos (by omega), digitChar_sub hc]
    obtain rfl : 10 * Nat.ofDigitChars 10 front 0 + (c.toNat - 48) = n := by
      rw [← h.ofDigitChars_eq, Nat.ofDigitChars_append, Nat.ofDigitChars_cons,
        Nat.ofDigitChars_nil]
      rfl
    rcases eq_or_ne front [] with rfl | hne
    · rw [Nat.ofDigitChars_nil, Nat.mul_zero, Nat.zero_add, hlast, List.nil_append]
    · obtain ⟨hfront, hhead⟩ := h.front hne
      have hdigits : front = digits (Nat.ofDigitChars 10 front 0) := ih hfront
      have hpos : 0 < Nat.ofDigitChars 10 front 0 := by
        rw [Nat.pos_iff_ne_zero]
        intro hzero
        rw [hzero] at hdigits
        exact hhead (hdigits ▸ rfl)
      rw [digits, ← Nat.toDigits_append_toDigits (by decide) hpos (by omega), ← digits, ← digits,
        ← hdigits, hlast]

/-! ## Numerals -/

lemma numeral_of_neg (h : i < 0) : numeral i = '-' :: digits i.natAbs := by
  obtain ⟨n, rfl⟩ := Int.eq_negSucc_of_lt_zero h
  rfl

lemma numeral_of_nonneg (h : 0 ≤ i) : numeral i = digits i.natAbs := by
  obtain ⟨n, rfl⟩ := Int.eq_ofNat_of_zero_le h
  rfl

/-- **The numeral of an integer is its canonical one.** -/
theorem canonicalNumeral_iff {cs : List Char} : CanonicalNumeral i cs ↔ cs = numeral i := by
  constructor
  · rintro (⟨hi, h⟩ | ⟨hi, h⟩)
    · rw [numeral_of_neg hi, h.eq_digits]
    · rw [numeral_of_nonneg hi, h.eq_digits]
  · rintro rfl
    obtain hi | hi : i < 0 ∨ 0 ≤ i := by omega
    · rw [numeral_of_neg hi]
      exact .negative hi (canonicalDigits_digits _)
    · rw [numeral_of_nonneg hi]
      exact .nonneg hi (canonicalDigits_digits _)

lemma mem_numeral (h : c ∈ numeral i) : c = '-' ∨ isDigit c = true := by
  obtain hi | hi : i < 0 ∨ 0 ≤ i := by omega
  · rw [numeral_of_neg hi, List.mem_cons] at h
    exact h.imp_right isDigit_of_mem_digits
  · rw [numeral_of_nonneg hi] at h
    exact .inr (isDigit_of_mem_digits h)

lemma minus_notMem_digits (n : Nat) : '-' ∉ digits n := fun h => by
  have hdigit := isDigit_of_mem_digits h
  contradiction

lemma numeral_injective (h : numeral i = numeral j) : i = j := by
  obtain hi | hi : i < 0 ∨ 0 ≤ i := by omega
  all_goals obtain hj | hj : j < 0 ∨ 0 ≤ j := by omega
  · rw [numeral_of_neg hi, numeral_of_neg hj] at h
    have habs := digits_injective (List.cons.inj h).2
    omega
  · rw [numeral_of_neg hi, numeral_of_nonneg hj] at h
    exact absurd (h ▸ List.mem_cons_self) (minus_notMem_digits j.natAbs)
  · rw [numeral_of_nonneg hi, numeral_of_neg hj] at h
    exact absurd (h ▸ List.mem_cons_self) (minus_notMem_digits i.natAbs)
  · rw [numeral_of_nonneg hi, numeral_of_nonneg hj] at h
    have habs := digits_injective h
    omega

end ApiSurvey
