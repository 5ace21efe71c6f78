import ApiSurvey.Json.Basic
import ApiSurvey.Text.Blank
import ApiSurvey.Text.Split

/-!
# Field paths

A field path is a list of keys separated by points.  A key that ends in `[]` is expanded: every
element of the array found there is followed, in place of the array itself.  Blanks around a key
and empty keys do not count, so every text is a path; the empty path leads to the value where it
starts.
-/

namespace ApiSurvey

/-- One step of a path; an empty key stays at the value where it is. -/
structure Segment where
  key : String
  expand : Bool
deriving DecidableEq, Repr

structure FieldPath where
  segments : List Segment
deriving DecidableEq, Repr

namespace FieldPath

/-- The mark of an expanded key. -/
def expansionMark : List Char := ['[', ']']

/-- The keys of a path as written, trimmed, the empty ones left out. -/
def tokens (path : String) : List String :=
  (((Text.splitOn '.' path.toList).map Text.trim).filter (!·.isEmpty)).map String.ofList

end FieldPath

namespace Segment

open FieldPath

/-- The step that one key as written stands for. -/
def ofToken (token : String) : Segment :=
  match Text.stripTail expansionMark token.toList with
  | some key => ⟨String.ofList key, true⟩
  | none => ⟨token, false⟩

def render (s : Segment) : List Char :=
  if s.expand then s.key.toList ++ expansionMark else s.key.toList

end Segment

namespace FieldPath

/-- The path that a text writes. -/
def parse (path : String) : FieldPath :=
  ⟨(tokens path).map Segment.ofToken⟩

/-- The text of a path, its segments joined with points. -/
def render (p : FieldPath) : String :=
  String.ofList (Text.joinWith ['.'] (p.segments.map Segment.render))

def isEmpty (p : FieldPath) : Bool :=
  p.segments.isEmpty

def hasExpansion (p : FieldPath) : Bool :=
  p.segments.any Segment.expand

/-- The path from a field one key further down. -/
def join (path key : String) : String :=
  if path.isEmpty then key else path ++ "." ++ key

/-- The path of the elements of the array at `path`. -/
def elements (path : String) : String :=
  path ++ String.ofList expansionMark

end FieldPath

end ApiSurvey
