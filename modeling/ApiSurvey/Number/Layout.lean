import ApiSurvey.Number.Shortest

/-!
# Layouts of decimals

A decimal is written positionally, with zeros filling the places up to the point, or
scientifically, with one digit before the point and a signed exponent.
-/

namespace ApiSurvey

namespace Decimal

/-- The digits before and after the point in positional writing. -/
def places (d : Decimal) : List Char × List Char :=
  if d.exponent < 0 then (['0'], List.replicate ((-d.exponent).toNat - 1) '0' ++ d.digits)
  else
    let whole := d.exponent.toNat + 1
    (d.digits.take whole ++ List.replicate (whole - d.digits.length) '0', d.digits.drop whole)

/-- Positional writing; a whole number has no point. -/
def positional (d : Decimal) : List Char :=
  match d.places with
  | (whole, []) => whole
  | (whole, fraction) => whole ++ '.' :: fraction

/-- Positional writing with at least one digit after the point. -/
def positionalPointed (d : Decimal) : List Char :=
  match d.places with
  | (whole, []) => whole ++ ['.', '0']
  | (whole, fraction) => whole ++ '.' :: fraction

/-- Scientific writing, with the sign of the exponent always there. -/
def scientific (d : Decimal) : List Char :=
  let lead := match d.digits with
    | [] => ['0']
    | [c] => [c]
    | c :: cs => c :: '.' :: cs
  let sign := if d.exponent < 0 then '-' else '+'
  lead ++ 'e' :: sign :: ApiSurvey.digits d.exponent.natAbs

end Decimal

namespace Binary64

def signed (x : Binary64) (cs : List Char) : List Char :=
  if x.negative then '-' :: cs else cs

/-- The plain text of a double: the shortest decimal without exponent, a whole number without
point.  Of two equally near decimals it takes the greater. -/
def plain (x : Binary64) : List Char :=
  x.signed (x.shortest .up).positional

/-- The text of a double in JSON: always with a point or an exponent, positional for scientific
exponents from -5 to 15.  Of two equally near decimals it takes the even one. -/
def jsonText (x : Binary64) : List Char :=
  let d := x.shortest .even
  x.signed (if -5 ≤ d.exponent ∧ d.exponent < 16 then d.positionalPointed else d.scientific)

end Binary64

end ApiSurvey
