import ApiSurvey.Json.Parser
import ApiSurvey.Proofs.Grouping.NormalForm
import ApiSurvey.Proofs.Number.Exactness
import ApiSurvey.Proofs.Number.Numeral
import ApiSurvey.Proofs.Text.Ascii

/-!
# Keys of whole numbers

A number may be held as an integer or as a double.  Below the bound up to which whole doubles are
written with all their digits both are written alike, by the canonical numeral of the value, so that
numbers of one value have one key.  The one exception is the zero with a sign, a double of its own:
it is written with the sign, which gives it a key of its own.
-/

namespace ApiSurvey

namespace Binary64

variable {x : Binary64} {i : Int}

/-- A double without a magnitude is a zero. -/
lemma eq_zero_of_magnitude (h : x.magnitude = 0) : x = zero x.negative := by
  obtain ⟨negative, mantissa, shift, hcanonical⟩ := x
  have hpow : Nat.pow 2 shift ≠ 0 := (Nat.two_pow_pos shift).ne'
  obtain rfl : mantissa = 0 := (Nat.mul_eq_zero.1 h).resolve_right hpow
  obtain rfl : shift = 0 := hcanonical.2.2.resolve_left (by decide)
  rfl

section

variable (h : x.units = i * one)

include h

lemma magnitude_of_units : x.magnitude = i.natAbs * one := by
  rw [← natAbs_units, h, Int.natAbs_mul, Int.natAbs_natCast]

lemma isWhole_of_units : x.isWhole = true := by
  rw [isWhole, magnitude_of_units h, Nat.mul_mod_left, beq_self_eq_true]

lemma wholePart_of_units : x.wholePart = i.natAbs := by
  rw [wholePart, magnitude_of_units h, Nat.mul_div_cancel _ one_pos]

/-- The sign of a double is that of its value, but for the zero with a sign. -/
lemma negative_iff_of_units (hx : x ≠ zero true) : x.negative = true ↔ i < 0 := by
  have hone : (0 : Int) < one := Int.natCast_pos.2 one_pos
  constructor
  · intro hnegative
    by_contra hi
    have hmagnitude : x.magnitude = 0 := by
      have hunits : x.units = -(x.magnitude : Int) := by rw [units, if_pos hnegative]
      have hproduct : 0 ≤ i * one := Int.mul_nonneg (Int.not_lt.1 hi) (Int.le_of_lt hone)
      omega
    exact hx (hnegative ▸ eq_zero_of_magnitude hmagnitude)
  · intro hi
    by_contra hnegative
    have hunits : x.units = x.magnitude := by rw [units, if_neg hnegative]
    have hproduct : i * one < 0 := Int.mul_neg_of_neg_of_pos hi hone
    omega

end

end Binary64

namespace Number

/-- The value of a number, in the units of doubles. -/
def units : Number → Int
  | integer n => n * Binary64.one
  | double x => x.units

/-- The double that is a zero with a sign. -/
def minusZero : Number :=
  double (.zero true)

variable {m n : Number} {i j : Int}

/-- A whole double below the bound is written with its digits. -/
lemma atomText_double {x : Binary64} (h : x.units = i * Binary64.one) (hi : i.natAbs < 10 ^ 21) :
    (double x).atomText = x.signed (digits i.natAbs) := by
  have hbound : x.wholePart < exactBound := by
    rw [Binary64.wholePart_of_units h]
    exact hi
  rw [atomText, Binary64.isWhole_of_units h, decide_eq_true hbound, Bool.and_self, if_pos rfl,
    Binary64.wholePart_of_units h]

/-- **A number with a whole value below the bound is written with its numeral**, be it held as an
integer or as a double. -/
theorem atomText_eq_numeral (hn : n ≠ minusZero) (h : n.units = i * Binary64.one)
    (hi : i.natAbs < 10 ^ 21) : n.atomText = numeral i := by
  cases n with
  | integer k =>
    obtain rfl : k = i := Int.eq_of_mul_eq_mul_right (Int.natCast_ne_zero.2 Binary64.one_pos.ne') h
    rfl
  | double x =>
    have hx : x ≠ .zero true := fun hx => hn (congrArg double hx)
    rw [atomText_double h hi, Binary64.signed]
    by_cases hsign : i < 0
    · rw [if_pos ((Binary64.negative_iff_of_units h hx).2 hsign), numeral_of_neg hsign]
    · rw [if_neg (mt (Binary64.negative_iff_of_units h hx).1 hsign),
        numeral_of_nonneg (by omega)]

lemma units_minusZero : minusZero.units = (0 : Int) * Binary64.one := by
  rw [Int.zero_mul]
  rfl

/-- The zero with a sign is written with it. -/
lemma atomText_minusZero : minusZero.atomText = ['-', '0'] := by
  rw [minusZero, atomText_double units_minusZero (by decide)]
  rfl

/-- This is the numeral of no integer. -/
lemma not_canonicalNumeral_minusZero (i : Int) : ¬ CanonicalNumeral i minusZero.atomText := by
  rw [atomText_minusZero]
  intro h
  cases h with
  | negative hi h =>
    have hzero : i.natAbs = 0 := Option.some.inj (h.value.symm.trans (by decide))
    omega
  | nonneg hi h => exact absurd (h.all_isDigit '-' List.mem_cons_self) (by decide)

section

variable (h : n.units = i * Binary64.one) (hi : i.natAbs < 10 ^ 21)

include h hi

lemma canonicalNumeral_atomText_iff : CanonicalNumeral i n.atomText ↔ n ≠ minusZero := by
  constructor
  · rintro hcanonical rfl
    exact not_canonicalNumeral_minusZero i hcanonical
  · intro hn
    exact canonicalNumeral_iff.2 (atomText_eq_numeral hn h hi)

lemma atomText_eq_minusZero_iff : n.atomText = minusZero.atomText ↔ n = minusZero := by
  constructor
  · intro heq
    by_contra hn
    have hcanonical := (canonicalNumeral_atomText_iff h hi).2 hn
    exact not_canonicalNumeral_minusZero i (heq ▸ hcanonical)
  · rintro rfl
    rfl

/-- The text of a whole number has digits and a minus sign only. -/
lemma mem_atomText {c : Char} (hc : c ∈ n.atomText) : c = '-' ∨ isDigit c = true := by
  rcases eq_or_ne n minusZero with rfl | hn
  · rw [atomText_minusZero, List.mem_pair] at hc
    exact hc.imp_right (by rintro rfl; rfl)
  · rw [atomText_eq_numeral hn h hi] at hc
    exact mem_numeral hc

/-- A normalizer keeps the text of a whole number, in which there are neither blanks nor
capitals. -/
lemma apply_atomText (k : Normalizer) : k.apply (.ofList n.atomText) = .ofList n.atomText := by
  have hplain : ∀ c ∈ n.atomText, Text.isBlank c = false ∧ Text.isCapital c = false := by
    intro c hc
    have hrange : 45 ≤ c.toNat ∧ c.toNat ≤ 57 := by
      rcases mem_atomText h hi hc with rfl | hdigit
      · decide
      · exact (isDigit_iff.1 hdigit).imp_left (Nat.le_trans (by decide))
    have hcapital : Text.isCapital c = false := by
      refine Bool.eq_false_iff.2 fun hcapital => ?_
      have hletter := Text.covers_asciiCapitals.1 (Text.covers_of_isCapital (by omega) hcapital)
      omega
    exact ⟨Text.isBlank_of_range (by omega), hcapital⟩
  cases k with
  | verbatim => rfl
  | lowerTrim =>
    refine Normalizer.apply_lowerTrim_eq_self_iff.2 ?_
    rw [String.toList_ofList]
    exact ⟨⟨fun c hc => (hplain c (List.mem_of_mem_head? hc)).1,
      fun c hc => (hplain c (List.mem_of_mem_getLast? hc)).1⟩, fun c hc => (hplain c hc).2⟩

lemma map_apply_atoms (k : Normalizer) :
    (Json.number n).atoms.map k.apply = [.ofList n.atomText] := by
  rw [Json.atoms, List.map_singleton, apply_atomText h hi]

end

/-- Two whole numbers are written alike if they have one value, and both or neither of them are the
zero with a sign. -/
lemma atomText_eq_iff (hm : m.units = j * Binary64.one) (hj : j.natAbs < 10 ^ 21)
    (hn : n.units = i * Binary64.one) (hi : i.natAbs < 10 ^ 21) :
    m.atomText = n.atomText ↔ m.units = n.units ∧ (m = minusZero ↔ n = minusZero) := by
  have hone : (Binary64.one : Int) ≠ 0 := Int.natCast_ne_zero.2 Binary64.one_pos.ne'
  constructor
  · intro heq
    have hzero : m = minusZero ↔ n = minusZero := by
      rw [← atomText_eq_minusZero_iff hm hj, ← atomText_eq_minusZero_iff hn hi, heq]
    refine ⟨?_, hzero⟩
    by_cases hm' : m = minusZero
    · rw [hm', hzero.1 hm']
    · rw [atomText_eq_numeral hm' hm hj, atomText_eq_numeral (mt hzero.2 hm') hn hi] at heq
      rw [hm, hn, numeral_injective heq]
  · rintro ⟨hunits, hzero⟩
    by_cases hm' : m = minusZero
    · rw [hm', hzero.1 hm']
    · obtain rfl : j = i := Int.eq_of_mul_eq_mul_right hone (by rw [← hm, ← hn, hunits])
      rw [atomText_eq_numeral hm' hm hj, atomText_eq_numeral (mt hzero.2 hm') hn hi]

/-- **A number whose value is a whole one below the bound is written with the canonical numeral of
its value, unless it is the zero with a sign; and two such numbers make the same key just if they
have one value and both or neither of them are that zero.** -/
theorem whole_number_keys (h : n.units = i * Binary64.one) (hi : i.natAbs < 10 ^ 21) :
    (CanonicalNumeral i n.atomText ↔ n ≠ minusZero)
      ∧ ∀ (k : Normalizer) (m : Number) (j : Int), m.units = j * Binary64.one → j.natAbs < 10 ^ 21 →
        ((Json.number m).atoms.map k.apply = (Json.number n).atoms.map k.apply
          ↔ m.units = n.units ∧ (m = minusZero ↔ n = minusZero)) := by
  refine ⟨canonicalNumeral_atomText_iff h hi, fun k m j hm hj => ?_⟩
  rw [map_apply_atoms hm hj, map_apply_atoms h hi, List.singleton_inj, String.ofList_inj]
  exact atomText_eq_iff hm hj h hi

/-! A number beyond the integers that every double holds exactly, as an integer and as a double. -/

def minusTwoTo53 : Binary64 := ⟨true, Nat.pow 2 52, 1075, by decide⟩

theorem whole_number_keys_minusTwoTo53 :
    (double minusTwoTo53).units = (-9007199254740992 : Int) * Binary64.one
      ∧ CanonicalNumeral (-9007199254740992) (double minusTwoTo53).atomText
      ∧ (Json.number (.integer (-9007199254740992))).atoms.map Normalizer.lowerTrim.apply
        = (Json.number (.double minusTwoTo53)).atoms.map Normalizer.lowerTrim.apply := by
  have hunits : (double minusTwoTo53).units = (-9007199254740992 : Int) * Binary64.one := by
    decide +kernel
  have hne : double minusTwoTo53 ≠ minusZero := by decide
  obtain ⟨hcanonical, hkeys⟩ := whole_number_keys hunits (by decide)
  have hsame := hkeys .lowerTrim (.integer (-9007199254740992)) (-9007199254740992) rfl (by decide)
  exact ⟨hunits, hcanonical.2 hne, hsame.2 ⟨hunits.symm, iff_of_false nofun hne⟩⟩

/-- The zero with a sign is read from a literal, and it is as great as the integer zero; but it is
not written with the numeral of zero, and it makes another key. -/
theorem whole_number_keys_minusZero :
    Json.parse? "-0.0" = some (.number minusZero)
      ∧ minusZero.units = (0 : Int) * Binary64.one
      ∧ (integer 0).units = (0 : Int) * Binary64.one
      ∧ ¬ CanonicalNumeral 0 minusZero.atomText
      ∧ (Json.number minusZero).atoms.map Normalizer.lowerTrim.apply = ["-0"]
      ∧ (Json.number (.integer 0)).atoms.map Normalizer.lowerTrim.apply = ["0"] := by
  have hminus := map_apply_atoms units_minusZero (by decide) .lowerTrim
  have hzero := map_apply_atoms (n := integer 0) (i := 0) rfl (by decide) .lowerTrim
  rw [atomText_minusZero] at hminus
  exact ⟨by decide +kernel, units_minusZero, rfl, not_canonicalNumeral_minusZero 0, hminus, hzero⟩

end Number

end ApiSurvey
