import ApiSurvey.Text.Split
import ApiSurvey.Toml.Quoted
import ApiSurvey.Toml.Table

/-!
# Unquoted scalars in TOML

Booleans, integers in four bases, fractional numbers and points in time are written without
quotes.  Underscores may separate digits; only decimal numbers have a sign, and no decimal number
begins with a zero that is not its only digit.

A scalar may be of several words with blanks between them, as a date and a time are.  What an
integer is made of is looked at loosely.  Around its underscores the letters `a` to `f` pass for
digits, and behind the first underscore of a decimal one anything may stand but a space or what
makes it a fractional number.  So there are integers that write no number; nothing can be read from
them.
-/

namespace ApiSurvey.Toml

open Text

namespace Scalar

def isHexDigit (c : Char) : Bool :=
  (digitValue? 16 c).isSome

def isSign (c : Char) : Bool :=
  c == '+' || c == '-'

/-- The text without the sign in front of it. -/
def unsigned (cs : List Char) : List Char :=
  match cs with
  | c :: rest => if isSign c then rest else cs
  | [] => []

/-- Whether every underscore stands between two digits, `p` being those that pass for one. -/
def isGrouped (p : Char → Bool) (cs : List Char) : Bool :=
  let groups := splitOn '_' cs
  (groups.dropLast.all fun g => g.getLast?.any p) && (groups.drop 1).all fun g => g.head?.any p

/-- The text without underscores. -/
def ungrouped (cs : List Char) : List Char :=
  cs.filter (· != '_')

/-- Whether the text is of digits and underscores, with a digit among them. -/
def isGroupedDigits (cs : List Char) : Bool :=
  cs.all (fun c => isDigit c || c == '_') && cs.any isDigit

/-- Whether a zero stands in front of other digits. -/
def hasLeadingZero (cs : List Char) : Bool :=
  cs.head? == some '0' && (ungrouped cs).length != 1

/-- The integer that `ds`, the digits of the literal, write; illegible where there is none. -/
def integer (literal : List Char) (base : Nat) (negative : Bool) (ds : List Char) : Value :=
  match readDigits? base ds with
  | some n =>
    if ds.isEmpty then .illegible (String.ofList literal)
    else .integer (if negative then -(n : Int) else n)
  | none => .illegible (String.ofList literal)

/-- The integer whose digits in `base` follow the two characters that name the base. -/
def radixInteger? (base : Nat) (literal : List Char) : Option Value :=
  let ds := literal.drop 2
  if (ungrouped ds).all (fun c => (digitValue? base c).isSome) && isGrouped isHexDigit ds
  then some (integer literal base false (ungrouped ds)) else none

/-- The decimal integer that a text writes: digits, and behind the first underscore anything that is
neither a space nor part of a fractional number. -/
def decimalInteger? (literal : List Char) : Option Value :=
  let body := unsigned literal
  let rest := body.dropWhile isDigit
  if !body.isEmpty && !hasLeadingZero body && (rest.isEmpty || rest.head? == some '_')
    && !rest.any (fun c => c == '.' || c == 'e' || c == 'E' || c == ' ')
    && isGrouped isHexDigit literal
  then some (integer literal 10 (literal.head? == some '-') (ungrouped body)) else none

def integer? (cs : List Char) : Option Value :=
  match cs with
  | '0' :: 'x' :: _ => radixInteger? 16 cs
  | '0' :: 'o' :: _ => radixInteger? 8 cs
  | '0' :: 'b' :: _ => radixInteger? 2 cs
  | cs => decimalInteger? cs

/-- Whether the text writes a fractional number. -/
def isFloat (cs : List Char) : Bool :=
  let body := unsigned cs
  if body = ['i', 'n', 'f'] ∨ body = ['n', 'a', 'n'] then true
  else
    let parts := splitOnce (fun c => c == 'e' || c == 'E') body
    let (mantissa, exponent) := (parts.map Prod.fst |>.getD body, parts.map Prod.snd)
    let point := splitOnce (· == '.') mantissa
    let (whole, fraction) := (point.map Prod.fst |>.getD mantissa, point.map Prod.snd)
    isGroupedDigits whole && !hasLeadingZero whole && (fraction.isSome || exponent.isSome)
      && fraction.all isGroupedDigits && exponent.all (isGroupedDigits ∘ unsigned)
      && isGrouped isDigit cs

/-- The number that exactly `width` digits write. -/
def fixed? (width : Nat) (cs : List Char) : Option Nat :=
  if cs.length = width ∧ cs.all isDigit then readDigits? 10 cs else none

def daysIn (year month : Nat) : Nat :=
  if month = 2 then
    if year % 4 = 0 ∧ (year % 100 ≠ 0 ∨ year % 400 = 0) then 29 else 28
  else if month = 4 ∨ month = 6 ∨ month = 9 ∨ month = 11 then 30
  else 31

/-- Whether the text is a date, `1979-05-27`. -/
def isDate (cs : List Char) : Bool :=
  match splitOn '-' cs with
  | [year, month, day] =>
    match fixed? 4 year, fixed? 2 month, fixed? 2 day with
    | some y, some m, some d => 1 ≤ m && m ≤ 12 && 1 ≤ d && d ≤ daysIn y m
    | _, _, _ => false
  | _ => false

/-- Whether the text is a number of hours and minutes, `07:32`. -/
def isHourMinute (hour minute : List Char) : Bool :=
  match fixed? 2 hour, fixed? 2 minute with
  | some h, some m => h < 24 && m < 60
  | _, _ => false

/-- Whether the text is a number of seconds with or without a fraction; a leap second counts. -/
def isSecond (cs : List Char) : Bool :=
  match splitOn '.' cs with
  | [whole] => (fixed? 2 whole).any (· ≤ 60)
  | [whole, fraction] =>
    (fixed? 2 whole).any (· ≤ 60) && !fraction.isEmpty && fraction.all isDigit
  | _ => false

/-- Whether the text is a time of day, `07:32` or `07:32:00.5`. -/
def isTime (cs : List Char) : Bool :=
  match splitOn ':' cs with
  | [hour, minute] => isHourMinute hour minute
  | [hour, minute, second] => isHourMinute hour minute && isSecond second
  | _ => false

/-- Whether the text is a time of day with the offset of its zone or none. -/
def isZonedTime (cs : List Char) : Bool :=
  match cs.reverse with
  | 'Z' :: time => isTime time.reverse
  | 'z' :: time => isTime time.reverse
  | _ =>
    match splitOnce isSign cs with
    | none => isTime cs
    | some (time, offset) =>
      match splitOn ':' offset with
      | [hour, minute] => isTime time && isHourMinute hour minute
      | _ => false

/-- Whether the text is a date, a time of day, or both with a separator. -/
def isDateTime (cs : List Char) : Bool :=
  isDate cs || isTime cs ||
    match cs.drop 10 with
    | c :: time => (c == 'T' || c == 't' || c == ' ') && isDate (cs.take 10) && isZonedTime time
    | [] => false

/-- The characters of words are all but blanks and those that end a scalar. -/
def isWordChar (c : Char) : Bool :=
  !(isBlankChar c || c == '=' || c == ',' || c == '[' || c == ']' || c == '\x7b' || c == '\x7d'
    || c == '#' || c == '\r' || c == '\n')

/-- The words and blanks at the beginning of a text; `fresh` tells that a word would begin there.
No word begins with a quote. -/
def words (fresh : Bool) : List Char → List Char
  | [] => []
  | c :: cs =>
    if isBlankChar c then c :: words true cs
    else if isWordChar c && !(fresh && (c == '"' || c == '\'')) then c :: words false cs
    else []

/-- The run of characters at the beginning that is one scalar: words with blanks between them. -/
def run (cs : List Char) : List Char :=
  ((words true cs).reverse.dropWhile isBlankChar).reverse

end Scalar

open Scalar in
/-- The value that an unquoted scalar writes. -/
def scalar? (cs : List Char) : Option Value :=
  if cs = ['t', 'r', 'u', 'e'] then some (.boolean true)
  else if cs = ['f', 'a', 'l', 's', 'e'] then some (.boolean false)
  else match integer? cs with
    | some v => some v
    | none =>
      if isFloat cs then some (.float (String.ofList cs))
      else if isDateTime cs then some (.dateTime (String.ofList cs))
      else none

end ApiSurvey.Toml
