import ApiSurvey.Number.Binary64
import Mathlib.Algebra.Order.Ring.Int
import Mathlib.Tactic.Common

/-!
# Whole numbers as doubles

A double is the double nearest to itself, and every whole number up to `2^53` in magnitude is a
double.  So within that bound whole numbers are converted, added and compared as doubles just as
they are as integers: nothing is rounded.
-/

namespace ApiSurvey

/-- A multiple is divided without rounding. -/
lemma roundDiv_mul (tie : Tie) (n : Nat) {d : Nat} (hd : 0 < d) : roundDiv tie (n * d) d = n := by
  simp [roundDiv, Nat.mul_div_cancel n hd, hd]

namespace Binary64

variable {x y : Binary64} {i j : Int} {m s : Nat}

lemma natAbs_units (x : Binary64) : x.units.natAbs = x.magnitude := by
  rw [units]
  split
  · rw [Int.natAbs_neg, Int.natAbs_natCast]
  · rw [Int.natAbs_natCast]

/-! ## A double is not rounded -/

/-- Of a magnitude the first 53 bits are kept, and those of a double are its mantissa. -/
lemma log2_magnitude (x : Binary64) : x.magnitude.log2 - 52 = x.shift := by
  obtain ⟨negative, mantissa, shift, hlt, -, hnormal⟩ := x
  have hpow : 0 < 2 ^ shift := Nat.two_pow_pos shift
  change (mantissa * 2 ^ shift).log2 - 52 = shift
  rcases Nat.eq_zero_or_pos mantissa with rfl | hpos
  · obtain rfl : shift = 0 := hnormal.resolve_left (by decide)
    decide
  have hne : mantissa * 2 ^ shift ≠ 0 := (Nat.mul_pos hpos hpow).ne'
  have hupper : (mantissa * 2 ^ shift).log2 < 53 + shift := by
    rw [Nat.log2_lt hne, Nat.pow_add]
    exact Nat.mul_lt_mul_of_pos_right hlt hpow
  rcases hnormal with hge | rfl
  · have hlower : 52 + shift ≤ (mantissa * 2 ^ shift).log2 := by
      rw [Nat.le_log2 hne, Nat.pow_add]
      exact Nat.mul_le_mul_right _ hge
    omega
  · omega

/-- **The double nearest to the magnitude of a double is that double**, with the sign that is asked
for. -/
theorem ofUnits_magnitude (negative : Bool) (x : Binary64) :
    ofUnits negative x.magnitude 1 = some { x with negative := negative } := by
  have hmantissa : roundDiv .even x.magnitude (Nat.pow 2 x.shift) = x.mantissa :=
    roundDiv_mul .even x.mantissa (Nat.two_pow_pos x.shift)
  have hne : x.mantissa ≠ Nat.pow 2 53 := x.canonical.1.ne
  simp only [ofUnits, Nat.div_one, Nat.one_mul, log2_magnitude, hmantissa, if_neg hne]
  exact dif_pos x.canonical

/-! ## Whole numbers up to `2^53` -/

/-- A number of at most 53 bits is the mantissa of a double once it is shifted to the left. -/
lemma exists_magnitude_shifted (hm : m ≤ 2 ^ 53) (hs : 52 ≤ s) (hs' : s ≤ 2044) :
    ∃ x : Binary64, x.magnitude = m * Nat.pow 2 s := by
  rcases Nat.eq_zero_or_pos m with rfl | hpos
  · exact ⟨zero false, by rw [magnitude, zero, Nat.zero_mul, Nat.zero_mul]⟩
  rcases Nat.eq_or_lt_of_le hm with rfl | hlt
  · refine ⟨⟨false, 2 ^ 52, s + 1, by decide, by omega, .inl (Nat.le_refl _)⟩, ?_⟩
    change 2 ^ 52 * 2 ^ (s + 1) = 2 ^ 53 * 2 ^ s
    rw [← Nat.pow_add, ← Nat.pow_add]
    congr 1
    omega
  · -- the highest bit comes to the place of the highest bit of a mantissa
    have hlog : m.log2 ≤ 52 := Nat.le_of_lt_succ ((Nat.log2_lt hpos.ne').2 hlt)
    have hlower : 2 ^ m.log2 ≤ m := Nat.log2_self_le hpos.ne'
    have hupper : m < 2 ^ (m.log2 + 1) := Nat.lt_log2_self
    have hsum (k : Nat) : 2 ^ (m.log2 + k) * 2 ^ (52 - m.log2) = 2 ^ (52 + k) := by
      rw [← Nat.pow_add]
      congr 1
      omega
    refine ⟨⟨false, m * 2 ^ (52 - m.log2), s - (52 - m.log2), ?_, by omega, .inl ?_⟩, ?_⟩
    · exact (Nat.mul_lt_mul_of_pos_right hupper (Nat.two_pow_pos _)).trans_eq (hsum 1)
    · exact (hsum 0).symm.trans_le (Nat.mul_le_mul_right _ hlower)
    · change m * 2 ^ (52 - m.log2) * 2 ^ (s - (52 - m.log2)) = m * 2 ^ s
      rw [Nat.mul_assoc, ← Nat.pow_add]
      congr 2
      omega

lemma exists_one_eq_pow : ∃ s, 52 ≤ s ∧ s ≤ 2044 ∧ one = Nat.pow 2 s :=
  ⟨1074, by decide, by decide, by decide +kernel⟩

lemma exists_magnitude (hm : m ≤ 2 ^ 53) : ∃ x : Binary64, x.magnitude = m * one := by
  obtain ⟨s, hs, hs', hone⟩ := exists_one_eq_pow
  rw [hone]
  exact exists_magnitude_shifted hm hs hs'

/-- A whole number up to `2^53` in magnitude is not rounded. -/
lemma exists_ofUnits (hi : i.natAbs ≤ 2 ^ 53) :
    ∃ x, ofUnits (decide (i * one < 0)) (i * one).natAbs 1 = some x ∧ x.units = i * one := by
  obtain ⟨x, hx⟩ := exists_magnitude hi
  have hmagnitude : x.magnitude = (i * one).natAbs := by
    rw [hx, Int.natAbs_mul, Int.natAbs_natCast]
  refine ⟨_, hmagnitude ▸ ofUnits_magnitude _ x, ?_⟩
  change (if decide (i * one < 0) = true then -(x.magnitude : Int) else x.magnitude) = i * one
  rw [hmagnitude]
  split
  · next hsign =>
    have hneg : i * one < 0 := of_decide_eq_true hsign
    omega
  · next hsign =>
    have hnonneg : ¬ i * one < 0 := fun hneg => hsign (decide_eq_true hneg)
    omega

/-- **A whole number up to `2^53` in magnitude is a double.** -/
theorem exists_ofInt (hi : i.natAbs ≤ 2 ^ 53) : ∃ x, ofInt i = some x ∧ x.units = i * one := by
  have hone : (0 : Int) < one := Int.natCast_pos.2 one_pos
  have hsign : i < 0 ↔ i * one < 0 := by
    rw [← Int.mul_lt_mul_right hone, Int.zero_mul]
  have habs : i.natAbs * one = (i * one).natAbs := by
    rw [Int.natAbs_mul, Int.natAbs_natCast]
  rw [ofInt, ofRatio, habs, decide_eq_decide.2 hsign]
  exact exists_ofUnits hi

lemma exists_ofNat (hm : m ≤ 2 ^ 53) : ∃ x, ofNat m = some x ∧ x.units = (m : Int) * one :=
  exists_ofInt (i := m) hm

/-- **Whole numbers are added exactly** if their sum is at most `2^53` in magnitude. -/
theorem exists_add (hx : x.units = i * one) (hy : y.units = j * one)
    (hsum : (i + j).natAbs ≤ 2 ^ 53) : ∃ z, x.add y = some z ∧ z.units = (i + j) * one := by
  rw [add, hx, hy, ← Int.add_mul]
  exact exists_ofUnits hsum

section

variable (hx : x.units = i * one) (hy : y.units = j * one)

include hx hy

/-- Whole numbers are compared as integers. -/
lemma lt_iff_of_units : x.lt y = true ↔ i < j := by
  rw [lt_iff, hx, hy, Int.mul_lt_mul_right (Int.natCast_pos.2 one_pos)]

lemma sameValue_iff_of_units : x.sameValue y = true ↔ i = j := by
  rw [sameValue_iff, hx, hy, Int.mul_eq_mul_right_iff (Int.natCast_ne_zero.2 one_pos.ne')]

end

end Binary64

end ApiSurvey
