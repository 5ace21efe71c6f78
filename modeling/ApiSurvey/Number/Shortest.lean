import ApiSurvey.Number.Binary64

/-!
# Shortest decimals

The shortest decimal of a double has the fewest digits that read back as the same double, and of
the decimals with so many digits it is the nearest.  The search goes through the grids of one, two,
… significant digits; on each grid only the two neighbours of the value have to be tried, since a
point further away lies in the interval of reals that round to the double only if one of them does.
All of it is exact arithmetic on natural numbers.
-/

namespace ApiSurvey

/-- A decimal `d₁.d₂d₃… · 10^exponent`: its significant digits and its scientific exponent. -/
structure Decimal where
  digits : List Char
  exponent : Int
deriving DecidableEq, Repr

namespace Decimal

/-- The decimal `n · 10^exponent`, zeros at the end of `n` left out. -/
def ofScaled (n : Nat) (exponent : Int) : Decimal :=
  let all := ApiSurvey.digits n
  let kept := (all.reverse.dropWhile (· == '0')).reverse
  if kept = [] then ⟨['0'], 0⟩ else ⟨kept, exponent + (all.length - 1 : Nat)⟩

end Decimal

namespace Binary64

/-- Four times the units of the ends of the interval of reals that round to `x`.  Below a power of
two the doubles are twice as dense. -/
def quarterEnds (x : Binary64) : Nat × Nat :=
  let spacing := Nat.pow 2 x.shift
  let below := if x.mantissa = Nat.pow 2 52 ∧ x.shift ≠ 0 then spacing else 2 * spacing
  (4 * x.magnitude - below, 4 * x.magnitude + 2 * spacing)

/-- The scientific exponent of `num / den`, both positive. -/
def decimalExponent (num den : Nat) : Int :=
  if den ≤ num then (digitCount (num / den) - 1 : Nat)
  else
    let places := digitCount (den / num) - 1
    if den ≤ num * Nat.pow 10 places then -(places : Int) else -((places : Int) + 1)

/-- The better neighbour of `x` among the multiples of `10^grid`, if one reads back as `x`. -/
def onGrid (tie : Tie) (x : Binary64) (grid : Int) : Option Nat :=
  let scale := Nat.pow 10 (-grid).toNat
  let step := 4 * one * Nat.pow 10 grid.toNat
  let ends := x.quarterEnds
  let value := 4 * x.magnitude * scale
  let readsBack (n : Nat) : Bool :=
    if x.mantissa % 2 = 0 then ends.1 * scale ≤ n * step && n * step ≤ ends.2 * scale
    else ends.1 * scale < n * step && n * step < ends.2 * scale
  let below := value / step
  let nearest := roundDiv tie value step
  if readsBack nearest then some nearest
  else if readsBack below then some below
  else if readsBack (below + 1) then some (below + 1)
  else none

/-- The exact decimal of the absolute value. -/
def exactDecimal (x : Binary64) : Decimal :=
  .ofScaled (x.magnitude * Nat.pow 5 1074) (-1074)

/-- The shortest decimal of the absolute value; `tie` decides between two that are equally near. -/
def shortest (tie : Tie) (x : Binary64) : Decimal :=
  if x.magnitude = 0 then ⟨['0'], 0⟩
  else
    let top := decimalExponent x.magnitude one
    let found := (List.range 17).findSome? fun (i : Nat) =>
      let grid := top - i
      (x.onGrid tie grid).map (Decimal.ofScaled · grid)
    found.getD x.exactDecimal

end Binary64

end ApiSurvey
