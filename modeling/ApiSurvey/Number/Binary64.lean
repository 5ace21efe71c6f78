import ApiSurvey.Number.Numeral

/-!
# Finite doubles

A finite double is a sign and a whole number of units of `2⁻¹⁰⁷⁴`, the least positive one.  The
number of units is `mantissa · 2^shift`, and the canonical form makes the pair unique, so that
equality of the structure is identity of doubles (the two zeros are different ones).  Comparison
and arithmetic go through the exact number of units: every operation computes its exact result and
rounds once, to the nearest double, an exact half to the even mantissa.  Scaling by a power of ten
is made of such operations, so its result need not be the nearest double.
-/

namespace ApiSurvey

/-! ## Rounding quotients -/

/-- What becomes of an exact half. -/
inductive Tie
  /-- It goes to the larger neighbour. -/
  | up
  /-- It goes to the even neighbour. -/
  | even
deriving DecidableEq, Repr

/-- The integer nearest to `num / den`. -/
def roundDiv (tie : Tie) (num den : Nat) : Nat :=
  let below := num / den
  let rest := num % den
  if 2 * rest < den then below
  else if den < 2 * rest then below + 1
  else match tie with
    | .up => below + 1
    | .even => if below % 2 = 0 then below else below + 1

@[simp] theorem roundDiv_one (tie : Tie) (n : Nat) : roundDiv tie n 1 = n := by
  simp [roundDiv, Nat.mod_one]

/-! ## Doubles -/

/-- A finite double, `± mantissa · 2^(shift - 1074)`. -/
structure Binary64 where
  negative : Bool
  mantissa : Nat
  shift : Nat
  /-- The mantissa has 53 bits unless the shift is the least. -/
  canonical : mantissa < Nat.pow 2 53 ∧ shift ≤ 2045 ∧ (Nat.pow 2 52 ≤ mantissa ∨ shift = 0)
deriving DecidableEq

namespace Binary64

/-- The units in one. -/
def one : Nat := Nat.pow 2 1074

theorem one_pos : 0 < one := by decide +kernel

/-- The absolute value, in units. -/
def magnitude (x : Binary64) : Nat :=
  x.mantissa * Nat.pow 2 x.shift

/-- The value, in units; both zeros have zero units. -/
def units (x : Binary64) : Int :=
  if x.negative then -(x.magnitude : Int) else x.magnitude

/-- The zero of the given sign. -/
def zero (negative : Bool) : Binary64 :=
  ⟨negative, 0, 0, by decide⟩

instance : Inhabited Binary64 := ⟨zero false⟩

/-- The double nearest to `num / den` units; none where that lies beyond the greatest double. -/
def ofUnits (negative : Bool) (num den : Nat) : Option Binary64 :=
  let shift := (num / den).log2 - 52
  let mantissa := roundDiv .even num (den * Nat.pow 2 shift)
  let carried := if mantissa = Nat.pow 2 53 then (Nat.pow 2 52, shift + 1) else (mantissa, shift)
  if h : carried.1 < Nat.pow 2 53 ∧ carried.2 ≤ 2045
      ∧ (Nat.pow 2 52 ≤ carried.1 ∨ carried.2 = 0) then
    some ⟨negative, carried.1, carried.2, h⟩
  else none

/-- The double nearest to `num / den`. -/
def ofRatio (negative : Bool) (num den : Nat) : Option Binary64 :=
  ofUnits negative (num * one) den

def ofNat (n : Nat) : Option Binary64 :=
  ofRatio false n 1

def ofInt (n : Int) : Option Binary64 :=
  ofRatio (decide (n < 0)) n.natAbs 1

def add (x y : Binary64) : Option Binary64 :=
  let sum := x.units + y.units
  ofUnits (decide (sum < 0)) sum.natAbs 1

def mul (x y : Binary64) : Option Binary64 :=
  ofUnits (x.negative != y.negative) (x.magnitude * y.magnitude) one

/-- The quotient; none where the divisor is zero or the quotient too great. -/
def div (x y : Binary64) : Option Binary64 :=
  if y.magnitude = 0 then none
  else ofRatio (x.negative != y.negative) x.magnitude y.magnitude

/-- The double nearest to `10^n`; none where that lies beyond the greatest double. -/
def powerOfTen? (n : Nat) : Option Binary64 :=
  if n ≤ 308 then ofNat (Nat.pow 10 n) else none

/-- The quotient `x / 10^places`, in several divisions where the power is beyond `10^308`. -/
def divideByTens? (x : Binary64) (places : Nat) : Option Binary64 :=
  if x.magnitude = 0 then some x
  else if places ≤ 308 then (powerOfTen? places).bind x.div
  else ((powerOfTen? 308).bind x.div).bind fun quotient => quotient.divideByTens? (places - 308)
termination_by places

/-- The product `x · 10^exponent`; none where it lies beyond the greatest double. -/
def timesTens? (x : Binary64) : Int → Option Binary64
  | .ofNat places =>
    if x.magnitude = 0 then some x else (powerOfTen? places).bind x.mul
  | .negSucc places => x.divideByTens? (places + 1)

/-- The nearest whole number, an exact half away from zero. -/
def round (x : Binary64) : Option Binary64 :=
  ofRatio x.negative (roundDiv .up x.magnitude one) 1

/-- Numerical comparison: the two zeros are equal. -/
def sameValue (x y : Binary64) : Bool :=
  x.units == y.units

def lt (x y : Binary64) : Bool :=
  x.units < y.units

/-- Whether the value is a whole number. -/
def isWhole (x : Binary64) : Bool :=
  x.magnitude % one == 0

/-- The whole part of the absolute value. -/
def wholePart (x : Binary64) : Nat :=
  x.magnitude / one

theorem sameValue_iff {x y : Binary64} : x.sameValue y = true ↔ x.units = y.units := by
  simp [sameValue]

theorem lt_iff {x y : Binary64} : x.lt y = true ↔ x.units < y.units := by
  simp [lt]

end Binary64

end ApiSurvey
