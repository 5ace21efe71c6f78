import ApiSurvey.Json.Basic
import ApiSurvey.Number.Layout
import ApiSurvey.Text.Split

/-!
# Writing JSON text

Two layouts: the compact one has no blanks at all, the indented one puts every element and member
on a line of its own, two blanks deeper than its container, and leaves empty containers closed.
Strings escape the quote, the backslash and the control characters, and nothing else.
-/

namespace ApiSurvey

namespace Number

/-- The text of a number in JSON. -/
def jsonText : Number → List Char
  | integer n => numeral n
  | double x => x.jsonText

end Number

namespace Json

/-- A hexadecimal digit, small letters. -/
def hexDigit (n : Nat) : Char :=
  if n < 10 then Char.ofNat ('0'.toNat + n) else Char.ofNat ('a'.toNat + (n - 10))

/-- The characters that stand for one character inside a string. -/
def escape (c : Char) : List Char :=
  if c = '"' then ['\\', '"']
  else if c = '\\' then ['\\', '\\']
  else if c = '\x08' then ['\\', 'b']
  else if c = '\x0C' then ['\\', 'f']
  else if c = '\n' then ['\\', 'n']
  else if c = '\r' then ['\\', 'r']
  else if c = '\t' then ['\\', 't']
  else if c.toNat < 0x20 then
    ['\\', 'u', '0', '0', hexDigit (c.toNat / 16), hexDigit (c.toNat % 16)]
  else [c]

def quote (s : String) : List Char :=
  '"' :: (s.toList.flatMap escape ++ ['"'])

def boolText (b : Bool) : List Char :=
  if b then ['t', 'r', 'u', 'e'] else ['f', 'a', 'l', 's', 'e']

mutual

/-- The compact text of a value. -/
def compactChars : Json → List Char
  | null => ['n', 'u', 'l', 'l']
  | bool b => boolText b
  | number n => n.jsonText
  | string s => quote s
  | array items => '[' :: (Text.joinWith [','] (compactItems items) ++ [']'])
  | object members => '\x7b' :: (Text.joinWith [','] (compactMembers members) ++ ['\x7d'])

def compactItems : List Json → List (List Char)
  | [] => []
  | v :: vs => compactChars v :: compactItems vs

def compactMembers : Members → List (List Char)
  | [] => []
  | (key, v) :: ms => (quote key ++ ':' :: compactChars v) :: compactMembers ms

end

/-- A line break and the indentation of the next line. -/
def newline (depth : Nat) : List Char :=
  '\n' :: List.replicate (2 * depth) ' '

/-- Parts on lines of their own, one level below `depth`, between brackets. -/
def block (depth : Nat) (opening closing : Char) (parts : List (List Char)) : List Char :=
  if parts.isEmpty then [opening, closing]
  else
    opening :: newline (depth + 1) ++ Text.joinWith (',' :: newline (depth + 1)) parts
      ++ newline depth ++ [closing]

mutual

/-- The indented text of a value whose first line is indented by `depth` levels. -/
def indentedChars (depth : Nat) : Json → List Char
  | null => ['n', 'u', 'l', 'l']
  | bool b => boolText b
  | number n => n.jsonText
  | string s => quote s
  | array items => block depth '[' ']' (indentedItems (depth + 1) items)
  | object members => block depth '\x7b' '\x7d' (indentedMembers (depth + 1) members)

def indentedItems (depth : Nat) : List Json → List (List Char)
  | [] => []
  | v :: vs => indentedChars depth v :: indentedItems depth vs

def indentedMembers (depth : Nat) : Members → List (List Char)
  | [] => []
  | (key, v) :: ms => (quote key ++ ':' :: ' ' :: indentedChars depth v) :: indentedMembers depth ms

end

/-- The text of a value without blanks. -/
def compact (v : Json) : String :=
  String.ofList v.compactChars

/-- The text of a value, indented. -/
def indented (v : Json) : String :=
  String.ofList (v.indentedChars 0)

end Json

end ApiSurvey
