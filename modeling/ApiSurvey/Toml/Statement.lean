import ApiSurvey.Toml.Quoted
import ApiSurvey.Toml.Scalar
import ApiSurvey.Toml.Table

/-!
# Statements of a configuration text

A configuration text is a sequence of lines that assign a value to a key or name the table that
the following assignments are for.  Keys may be dotted.  An assignment remembers how its value is
written.  Arrays and inline tables may go over several lines and hold comments, and a comma may
stand after their last element; only a dotted key does not go on after a line break.  How deep both
may be nested is limited, and so is the number of parts of a dotted key.
-/

namespace ApiSurvey.Toml

inductive Statement
  /-- The table of the following assignments. -/
  | header (path : List String)
  /-- One more table in a list of tables. -/
  | listHeader (path : List String)
  /-- `source` is the value as it is written. -/
  | assign (path : List String) (value : Value) (source : List Char)
deriving Inhabited

def skipBlanks (cs : List Char) : List Char :=
  cs.dropWhile isBlankChar

/-- What follows a comment, from the line break on; the text itself if it begins with none. -/
def skipComment? : List Char → Option (List Char)
  | '#' :: cs =>
    let line := cs.takeWhile (· != '\n')
    let rest := cs.drop line.length
    let body := if rest.isEmpty then line else (Text.stripTail ['\r'] line).getD line
    if body.all isPlainChar then some rest else none
  | cs => some cs

/-- What follows the end of a line, which may hold blanks and a comment. -/
def endLine? (cs : List Char) : Option (List Char) := do
  match ← skipComment? (skipBlanks cs) with
  | [] => some []
  | rest => lineBreak? rest

/-- What follows at most so many lines of blanks and comments, and the blanks after them. -/
def skipLinesWithin? : Nat → List Char → Option (List Char)
  | 0, _ => none
  | fuel + 1, cs => do
    let rest ← skipComment? (skipBlanks cs)
    match lineBreak? rest with
    | some rest => skipLinesWithin? fuel rest
    | none => some rest

/-- What follows any number of blanks, comments and line breaks. -/
def skipLines? (cs : List Char) : Option (List Char) :=
  skipLinesWithin? (cs.length + 1) cs

def isKeyChar (c : Char) : Bool :=
  isDigit c || ('a' ≤ c && c ≤ 'z') || ('A' ≤ c && c ≤ 'Z') || c == '_' || c == '-'

/-- The simple key at the beginning of a text, and what follows. -/
def simpleKey? (cs : List Char) : Option (String × List Char) :=
  match cs.takeWhile isKeyChar with
  | [] => lineString? cs
  | key => some (String.ofList key, cs.drop key.length)

/-- How deep arrays and inline tables may be nested, and how many parts a dotted key may have. -/
def nestingLimit : Nat := 80

/-- The dotted key of at most so many parts at the beginning of a text, and what follows it and the
blanks after it. -/
def dottedKeyWithin? : Nat → List Char → Option (List String × List Char)
  | 0, _ => none
  | parts + 1, cs => do
    let (key, rest) ← simpleKey? (skipBlanks cs)
    match skipBlanks rest with
    | '.' :: rest => (dottedKeyWithin? parts rest).map fun (keys, rest) => (key :: keys, rest)
    | rest => some ([key], rest)

/-- The dotted key at the beginning of a text, and what follows it and the blanks after it. -/
def dottedKey? : List Char → Option (List String × List Char) :=
  dottedKeyWithin? nestingLimit

/-- A dotted key with an equals sign, and what follows; `skip?` passes over what may stand on both
sides of the sign. -/
def assignedKey? (skip? : List Char → Option (List Char)) (cs : List Char) :
    Option (List String × List Char) := do
  let (path, rest) ← dottedKey? cs
  match ← skip? rest with
  | '=' :: rest => (skip? rest).map (path, ·)
  | _ => none

/-- The entries with a value assigned to a dotted key. -/
def assignPath (path : List String) (v : Value) (entries : Entries) : Option Entries :=
  match path.reverse with
  | [] => none
  | key :: keys => Entries.assign key v keys.reverse entries

mutual

/-- The value at the beginning of a text, nested at most `levels` deep, and what follows. -/
def value? : Nat → Nat → List Char → Option (Value × List Char)
  | 0, _, _ => none
  | fuel + 1, levels, cs =>
    match cs with
    | '[' :: rest =>
      if levels = 0 then none
      else (items? fuel (levels - 1) rest).map fun (items, rest) => (.array items, rest)
    | '\x7b' :: rest =>
      if levels = 0 then none
      else (inlineMembers? fuel (levels - 1) [] rest).map fun (entries, rest) =>
        (.table (Entries.finishEntries entries), rest)
    | '"' :: _ => (string? cs).map fun (text, rest) => (.string text, rest)
    | '\'' :: _ => (string? cs).map fun (text, rest) => (.string text, rest)
    | _ =>
      let run := Scalar.run cs
      (scalar? run).map fun v => (v, cs.drop run.length)

/-- The rest of an array. -/
def items? : Nat → Nat → List Char → Option (List Value × List Char)
  | 0, _, _ => none
  | fuel + 1, levels, cs => do
    match ← skipLines? cs with
    | ']' :: rest => some ([], rest)
    | cs =>
      let (v, rest) ← value? fuel levels cs
      match ← skipLines? rest with
      | ',' :: rest => (items? fuel levels rest).map fun (vs, rest) => (v :: vs, rest)
      | ']' :: rest => some ([v], rest)
      | _ => none

/-- The rest of an inline table, of which the entries have been read. -/
def inlineMembers? : Nat → Nat → Entries → List Char → Option (Entries × List Char)
  | 0, _, _, _ => none
  | fuel + 1, levels, entries, cs => do
    match ← skipLines? cs with
    | '\x7d' :: rest => some (entries, rest)
    | cs =>
      let (path, rest) ← assignedKey? skipLines? cs
      let (v, rest) ← value? fuel levels rest
      let entries ← assignPath path v entries
      match ← skipLines? rest with
      | ',' :: rest => inlineMembers? fuel levels entries rest
      | '\x7d' :: rest => some (entries, rest)
      | _ => none

end

/-- The statement at the beginning of a text, and what follows it. -/
def statement? (cs : List Char) : Option (Statement × List Char) :=
  match cs with
  | '[' :: '[' :: rest => do
    match ← dottedKey? rest with
    | (path, ']' :: ']' :: rest) => some (.listHeader path, rest)
    | _ => none
  | '[' :: rest => do
    match ← dottedKey? rest with
    | (path, ']' :: rest) => some (.header path, rest)
    | _ => none
  | cs => do
    let (path, rest) ← assignedKey? (some ∘ skipBlanks) cs
    let (v, after) ← value? (rest.length + 1) nestingLimit rest
    return (.assign path v (rest.take (rest.length - after.length)), after)

/-- The statements of a text, one a line. -/
def statementsWithin? : Nat → List Char → Option (List Statement)
  | 0, _ => none
  | fuel + 1, cs => do
    match ← skipLines? cs with
    | [] => some []
    | cs =>
      let (statement, rest) ← statement? cs
      let rest ← endLine? rest
      (statementsWithin? fuel rest).map (statement :: ·)

/-- The statements of a text; a byte order mark in front of it does not count. -/
def statements? (text : String) : Option (List Statement) :=
  let cs := (Text.stripLead ['\uFEFF'] text.toList).getD text.toList
  statementsWithin? (cs.length + 1) cs

end ApiSurvey.Toml
