import ApiSurvey.Json.Basic
import ApiSurvey.Text.Split

/-!
# Number literals

The grammar of a number in JSON text and its meaning.  A literal without fraction and exponent
that fits in a signed or unsigned 64-bit word is an integer; every other one, the negative zero
among them, is a double.

The double comes from a significand and a power of ten.  The significand takes the digits before
the point as long as it fits in 64 bits, and then, once more as long as it fits, those after the
point.  A digit left out before the point counts as a factor of ten, one left out after it not at
all.  The double nearest to the significand is then scaled by the power of ten, which is rounded
for itself, so the result may differ from the nearest double in the last place.  A literal beyond
the greatest double has no meaning.
-/

namespace ApiSurvey

namespace Number

/-- Digits, and at least one of them. -/
def isDigits (cs : List Char) : Bool :=
  !cs.isEmpty && cs.all isDigit

/-- Digits with no zero in front of others. -/
def isWholePart (cs : List Char) : Bool :=
  isDigits cs && (cs.head? != some '0' || cs.length == 1)

/-- The exponent: digits after an optional sign. -/
def readExponent? (cs : List Char) : Option Int :=
  match cs with
  | '-' :: ds => if isDigits ds then (readDigits? 10 ds).map (fun n => -(n : Int)) else none
  | '+' :: ds => if isDigits ds then (readDigits? 10 ds).map (fun n => (n : Int)) else none
  | ds => if isDigits ds then (readDigits? 10 ds).map (fun n => (n : Int)) else none

/-- The significand with further digits, as long as it fits in 64 bits, and the digits left out. -/
def takeDigits (significand : Nat) : List Char → Nat × List Char
  | [] => (significand, [])
  | c :: cs =>
    match digitValue? 10 c with
    | none => (significand, c :: cs)
    | some d =>
      if significand * 10 + d < sizeBound then takeDigits (significand * 10 + d) cs
      else (significand, c :: cs)

/-- The double that a significand and an exponent of ten mean. -/
def ofScaled? (negative : Bool) (significand : Nat) (exponent : Int) : Option Number := do
  let x ← Binary64.ofNat significand
  let x ← x.timesTens? exponent
  return .double { x with negative := negative }

/-- The meaning of digits with digits after the point and an exponent of ten. -/
def ofDigits? (negative : Bool) (whole places : List Char) (exponent : Int) : Option Number :=
  let (significand, left) := takeDigits 0 whole
  let (significand, leftPlaces) := takeDigits significand places
  ofScaled? negative significand (exponent + left.length + leftPlaces.length - places.length)

/-- The meaning of a literal without fraction and exponent. -/
def ofWhole? (negative : Bool) (whole : List Char) : Option Number := do
  let n ← readDigits? 10 whole
  if negative then
    if 0 < n ∧ n ≤ Nat.pow 2 63 then return .integer (-n)
    else ofDigits? true whole [] 0
  else
    if n < sizeBound then return .integer n
    else ofDigits? false whole [] 0

/-- The meaning of an unsigned literal under the given sign. -/
def ofUnsigned? (negative : Bool) (cs : List Char) : Option Number :=
  let (mantissa, exponent) := match Text.splitOnce (fun c => c == 'e' || c == 'E') cs with
    | some (mantissa, exponent) => (mantissa, some exponent)
    | none => (cs, none)
  let (whole, fraction) := match Text.splitOnce (· == '.') mantissa with
    | some (whole, fraction) => (whole, some fraction)
    | none => (mantissa, none)
  if !isWholePart whole then none
  else match fraction, exponent with
    | none, none => ofWhole? negative whole
    | _, _ => do
      let places := fraction.getD []
      if fraction.isSome && !isDigits places then none
      let scale ← match exponent with
        | some e => readExponent? e
        | none => some 0
      ofDigits? negative whole places scale

/-- The number that a literal writes, if it is one. -/
def ofLiteral? : List Char → Option Number
  | '-' :: cs => ofUnsigned? true cs
  | cs => ofUnsigned? false cs

end Number

end ApiSurvey
