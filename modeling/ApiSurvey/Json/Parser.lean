import ApiSurvey.Json.Token

/-!
# Reading JSON text

A text is read token by token with a stack of the arrays and objects that are still open.  The
text is JSON if every token fits the place where it stands and the stack is empty at the end, with
exactly one value read.  Nesting is limited to `nestingLimit` levels.
-/

namespace ApiSurvey.Json

namespace Parser

/-- An open array or object; an object remembers the key whose value is awaited. -/
inductive Frame
  | array (read : List Json)
  | object (members : Members) (key : String)

/-- What may come next. -/
inductive Place
  | value
  /-- A value, or the end of the array that has just been opened. -/
  | valueOrClose
  | key
  /-- A key, or the end of the object that has just been opened. -/
  | keyOrClose
  | colon
  /-- A comma or the end of the innermost container. -/
  | commaOrClose
  /-- Nothing but the end of the text. -/
  | done (result : Json)

/-- The open containers, innermost first, and the place within them. -/
structure State where
  frames : List Frame
  place : Place

/-- The state after a complete value. -/
def State.accept (frames : List Frame) (v : Json) : State :=
  match frames with
  | [] => ⟨[], .done v⟩
  | .array read :: rest => ⟨.array (v :: read) :: rest, .commaOrClose⟩
  | .object members key :: rest => ⟨.object (insertMember members key v) key :: rest, .commaOrClose⟩

/-- The state after the opening of a container, if one more level is allowed. -/
def State.enter? (limit : Nat) (frames : List Frame) (frame : Frame) (place : Place) :
    Option State :=
  if frames.length < limit then some ⟨frame :: frames, place⟩ else none

/-- A token where a value is due. -/
def startValue? (limit : Nat) (frames : List Frame) : Token → Option State
  | .scalar v => some (.accept frames v)
  | .string s => some (.accept frames (string s))
  | .openBracket => State.enter? limit frames (.array []) .valueOrClose
  | .openBrace => State.enter? limit frames (.object [] "") .keyOrClose
  | _ => none

def startKey? (members : Members) (rest : List Frame) : Token → Option State
  | .string s => some ⟨.object members s :: rest, .colon⟩
  | _ => none

/-- One token further. -/
def step? (limit : Nat) (s : State) (token : Token) : Option State :=
  match s.place, s.frames, token with
  | .value, frames, token => startValue? limit frames token
  | .valueOrClose, .array _ :: rest, .closeBracket => some (.accept rest (array []))
  | .valueOrClose, frames, token => startValue? limit frames token
  | .keyOrClose, .object _ _ :: rest, .closeBrace => some (.accept rest (object []))
  | .keyOrClose, .object members _ :: rest, token => startKey? members rest token
  | .key, .object members _ :: rest, token => startKey? members rest token
  | .colon, frames, .colon => some ⟨frames, .value⟩
  | .commaOrClose, .array read :: rest, .closeBracket => some (.accept rest (array read.reverse))
  | .commaOrClose, .array read :: rest, .comma => some ⟨.array read :: rest, .value⟩
  | .commaOrClose, .object members _ :: rest, .closeBrace => some (.accept rest (object members))
  | .commaOrClose, .object members key :: rest, .comma => some ⟨.object members key :: rest, .key⟩
  | _, _, _ => none

end Parser

/-- The value that the tokens write, if they write one. -/
def ofTokens? (limit : Nat) (tokens : List Token) : Option Json := do
  let s ← tokens.foldlM (Parser.step? limit) ⟨[], .value⟩
  match s.place with
  | .done v => some v
  | _ => none

/-- The value that a text writes, with at most `limit` levels of nesting. -/
def parseWithin? (limit : Nat) (text : String) : Option Json := do
  let tokens ← Token.scan? text.toList
  ofTokens? limit tokens

/-- Documents may nest arrays and objects this deep. -/
def nestingLimit : Nat := 127

/-- The value that a text writes. -/
def parse? (text : String) : Option Json :=
  parseWithin? nestingLimit text

end ApiSurvey.Json
