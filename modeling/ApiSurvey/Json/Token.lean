import ApiSurvey.Json.Literal

/-!
# Tokens of JSON text

JSON text is a sequence of tokens with blanks between them.  The scanner reads one character at a
time; its mode says what the characters before it have begun.  A run of letters, or of the
characters that numbers are written with, is taken as long as it goes on and judged at its end:
where it is not one token, the text is not JSON, since two such tokens never stand side by side.
-/

namespace ApiSurvey.Json

inductive Token
  | openBrace
  | closeBrace
  | openBracket
  | closeBracket
  | colon
  | comma
  /-- A value that is one token: a number or one of the three words. -/
  | scalar (value : Json)
  | string (text : String)

namespace Token

/-- What the characters read last have begun; texts are kept last character first. -/
inductive Mode
  | between
  | word (read : List Char)
  | number (read : List Char)
  | string (read : List Char)
  /-- After the backslash of an escape. -/
  | escape (read : List Char)
  /-- Within the four hexadecimal digits of an escape, `high` being the first half of a pair. -/
  | code (read : List Char) (high : Option Nat) (left : Nat) (value : Nat)
  /-- After the first half of a pair, before the backslash of the second. -/
  | pairBackslash (read : List Char) (high : Nat)
  /-- Before the letter of the second half of a pair. -/
  | pairLetter (read : List Char) (high : Nat)

def isSpace (c : Char) : Bool :=
  c == ' ' || c == '\n' || c == '\r' || c == '\t'

def isNumberChar (c : Char) : Bool :=
  isDigit c || c == '+' || c == '-' || c == '.' || c == 'e' || c == 'E'

def isLetter (c : Char) : Bool :=
  'a' ≤ c && c ≤ 'z'

/-- The token and mode that a character begins. -/
def start (c : Char) : Option (Mode × List Token) :=
  if isSpace c then some (.between, [])
  else if isDigit c || c == '-' then some (.number [c], [])
  else if isLetter c then some (.word [c], [])
  else match c with
    | '"' => some (.string [], [])
    | '\x7b' => some (.between, [.openBrace])
    | '\x7d' => some (.between, [.closeBrace])
    | '[' => some (.between, [.openBracket])
    | ']' => some (.between, [.closeBracket])
    | ':' => some (.between, [.colon])
    | ',' => some (.between, [.comma])
    | _ => none

def ofWord? (letters : List Char) : Option Token :=
  if letters = ['n', 'u', 'l', 'l'] then some (.scalar null)
  else if letters = ['t', 'r', 'u', 'e'] then some (.scalar (bool true))
  else if letters = ['f', 'a', 'l', 's', 'e'] then some (.scalar (bool false))
  else none

/-- The character that a one-letter escape stands for. -/
def unescape? : Char → Option Char
  | '"' => some '"'
  | '\\' => some '\\'
  | '/' => some '/'
  | 'b' => some '\x08'
  | 'f' => some '\x0C'
  | 'n' => some '\n'
  | 'r' => some '\r'
  | 't' => some '\t'
  | _ => none

def isHighHalf (n : Nat) : Bool := 0xD800 ≤ n && n < 0xDC00

def isLowHalf (n : Nat) : Bool := 0xDC00 ≤ n && n < 0xE000

/-- What a completed numeric escape leads to: a half of a pair must meet its other half. -/
def endCode (read : List Char) (high : Option Nat) (n : Nat) : Option Mode :=
  match high with
  | some h =>
    if isLowHalf n then
      some (.string (Char.ofNat (0x10000 + (h - 0xD800) * 0x400 + (n - 0xDC00)) :: read))
    else none
  | none =>
    if isHighHalf n then some (.pairBackslash read n)
    else if isLowHalf n then none
    else some (.string (Char.ofNat n :: read))

/-- One character further. -/
def step : Mode → Char → Option (Mode × List Token)
  | .between, c => start c
  | .word read, c =>
    if isLetter c then some (.word (c :: read), [])
    else do
      let token ← ofWord? read.reverse
      let (mode, tokens) ← start c
      return (mode, token :: tokens)
  | .number read, c =>
    if isNumberChar c then some (.number (c :: read), [])
    else do
      let n ← Number.ofLiteral? read.reverse
      let (mode, tokens) ← start c
      return (mode, .scalar (number n) :: tokens)
  | .string read, c =>
    if c == '"' then some (.between, [.string (String.ofList read.reverse)])
    else if c == '\\' then some (.escape read, [])
    else if c.toNat < 0x20 then none
    else some (.string (c :: read), [])
  | .escape read, c =>
    if c == 'u' then some (.code read none 4 0, [])
    else (unescape? c).map fun d => (.string (d :: read), [])
  | .code read high left value, c => do
    let d ← digitValue? 16 c
    let n := value * 16 + d
    if left ≤ 1 then (endCode read high n).map (·, [])
    else return (.code read high (left - 1) n, [])
  | .pairBackslash read high, c => if c == '\\' then some (.pairLetter read high, []) else none
  | .pairLetter read high, c => if c == 'u' then some (.code read (some high) 4 0, []) else none

/-- What the end of the text completes. -/
def finish : Mode → Option (List Token)
  | .between => some []
  | .word read => (ofWord? read.reverse).map ([·])
  | .number read => (Number.ofLiteral? read.reverse).map fun n => [.scalar (number n)]
  | _ => none

/-- The tokens of a text, if it consists of tokens. -/
def scan? (cs : List Char) : Option (List Token) := do
  let (mode, read) ← cs.foldlM (fun (mode, read) c => do
    let (mode, tokens) ← step mode c
    return (mode, tokens.reverse ++ read)) (Mode.between, [])
  let tokens ← finish mode
  return read.reverse ++ tokens

end Token

end ApiSurvey.Json
