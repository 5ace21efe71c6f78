import ApiSurvey.Number.Numeral

/-!
# Strings in TOML

Four ways to write a string: between double quotes, with escapes, or between single quotes,
without; and both also over several lines, between three quotes.  A reader returns the text and
what follows the closing quotes.  In the forms over several lines a line break right after the
opening quotes does not count, one or two quotes may stand anywhere, also right before the closing
ones, and in the form with escapes a backslash at the end of a line removes the break and all
blanks and breaks up to the next character.
-/

namespace ApiSurvey.Toml

def isBlankChar (c : Char) : Bool :=
  c == ' ' || c == '\t'

/-- Control characters other than the tab stand neither in strings nor in comments. -/
def isPlainChar (c : Char) : Bool :=
  c == '\t' || (0x20 ≤ c.toNat && c.toNat != 0x7F)

/-- What follows a line break, if the text begins with one. -/
def lineBreak? : List Char → Option (List Char)
  | '\n' :: cs => some cs
  | '\r' :: '\n' :: cs => some cs
  | _ => none

namespace Quoted

/-- The character of a numeric escape: a code point that is no surrogate. -/
def ofCode? (ds : List Char) : Option Char := do
  let n ← readDigits? 16 ds
  if h : n.isValidChar then some (Char.ofNatAux n h) else none

/-- The character whose code point the first `width` digits write, and what follows. -/
def coded? (width : Nat) (cs : List Char) : Option (Char × List Char) :=
  let ds := cs.take width
  if ds.length = width then (ofCode? ds).map (·, cs.drop width) else none

/-- The character that a text after a backslash stands for, and what follows. -/
def escaped? : List Char → Option (Char × List Char)
  | 'b' :: cs => some ('\x08', cs)
  | 't' :: cs => some ('\t', cs)
  | 'n' :: cs => some ('\n', cs)
  | 'f' :: cs => some ('\x0C', cs)
  | 'r' :: cs => some ('\r', cs)
  | '"' :: cs => some ('"', cs)
  | 'e' :: cs => some ('\x1B', cs)
  | '\\' :: cs => some ('\\', cs)
  | 'x' :: cs => coded? 2 cs
  | 'u' :: cs => coded? 4 cs
  | 'U' :: cs => coded? 8 cs
  | _ => none

/-- What follows blanks and line breaks. -/
def skipBreaks : List Char → List Char
  | [] => []
  | '\r' :: '\n' :: cs => skipBreaks cs
  | c :: cs => if isBlankChar c || c == '\n' then skipBreaks cs else c :: cs

/-- What follows a backslash at the end of a line, the break and all blanks removed. -/
def continued? (cs : List Char) : Option (List Char) :=
  (lineBreak? (cs.dropWhile isBlankChar)).map skipBreaks

/-- The rest of a string between double quotes. -/
def basic? : Nat → List Char → Option (List Char × List Char)
  | 0, _ => none
  | _ + 1, '"' :: cs => some ([], cs)
  | fuel + 1, '\\' :: cs => do
    let (c, rest) ← escaped? cs
    let (text, rest) ← basic? fuel rest
    return (c :: text, rest)
  | fuel + 1, c :: cs =>
    if isPlainChar c then (basic? fuel cs).map fun (text, rest) => (c :: text, rest) else none
  | _ + 1, [] => none

/-- The rest of a string between single quotes. -/
def literal? : List Char → Option (List Char × List Char)
  | [] => none
  | c :: cs =>
    if c = '\'' then some ([], cs)
    else if isPlainChar c then (literal? cs).map fun (text, rest) => (c :: text, rest)
    else none

/-- The quotes that belong to the text before closing quotes, and what follows these. -/
def closing? (quote : Char) (cs : List Char) : Option (List Char × List Char) :=
  let run := (cs.takeWhile (· == quote)).length
  if run < 3 then none
  else some (List.replicate (min run 5 - 3) quote, cs.drop (min run 5))

/-- The rest of a string over several lines; only between double quotes are there escapes. -/
def multiline? (quote : Char) : Nat → List Char → Option (List Char × List Char)
  | 0, _ => none
  | fuel + 1, cs =>
    match closing? quote cs with
    | some found => some found
    | none =>
      match cs with
      | [] => none
      | c :: rest =>
        if c = '\\' ∧ quote = '"' then
          match continued? rest with
          | some rest => multiline? quote fuel rest
          | none => do
            let (d, rest) ← escaped? rest
            let (text, rest) ← multiline? quote fuel rest
            return (d :: text, rest)
        else if isPlainChar c || c = '\n' then
          (multiline? quote fuel rest).map fun (text, rest) => (c :: text, rest)
        else match lineBreak? cs with
          | some rest =>
            (multiline? quote fuel rest).map fun (text, rest) => ('\r' :: '\n' :: text, rest)
          | none => none

/-- The text after the opening quotes of a string over several lines. -/
def afterOpening (cs : List Char) : List Char :=
  (lineBreak? cs).getD cs

end Quoted

open Quoted in
/-- The string at the beginning of a text on one line, and what follows. -/
def lineString? : List Char → Option (String × List Char)
  | '"' :: cs => (basic? (cs.length + 1) cs).map fun (text, rest) => (String.ofList text, rest)
  | '\'' :: cs => (literal? cs).map fun (text, rest) => (String.ofList text, rest)
  | _ => none

open Quoted in
/-- The string at the beginning of a text, and what follows. -/
def string? : List Char → Option (String × List Char)
  | '"' :: '"' :: '"' :: cs =>
    (multiline? '"' (cs.length + 1) (afterOpening cs)).map fun (text, rest) =>
      (String.ofList text, rest)
  | '\'' :: '\'' :: '\'' :: cs =>
    (multiline? '\'' (cs.length + 1) (afterOpening cs)).map fun (text, rest) =>
      (String.ofList text, rest)
  | cs => lineString? cs

end ApiSurvey.Toml
