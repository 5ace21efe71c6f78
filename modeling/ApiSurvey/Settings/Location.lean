import ApiSurvey.Text.Lines

/-!
# Location of a setting

Where the value of a setting stands in a configuration text, found line by line: after a line that
is exactly the header of the table, the first line with an equals sign after the key, up to the
next line that begins with a bracket.  The value is everything after the sign, trimmed.
-/

namespace ApiSurvey.Settings

/-- A stretch of a text, in bytes. -/
structure Span where
  start : Nat
  length : Nat
deriving DecidableEq, Repr

/-- The span of the value of `key` among `lines`, the first of which begins at `offset`;
`inTable` says whether the line before them belongs to the table. -/
def spanIn (header key : List Char) : Bool → Nat → List (List Char) → Option Span
  | _, _, [] => none
  | inTable, offset, line :: rest =>
    let trimmed := Text.trim line
    let next := offset + Text.byteLength line
    if trimmed.head? = some '[' then spanIn header key (trimmed == header) next rest
    else if inTable then
      match Text.splitOnce (· == '=') line with
      | some (name, value) =>
        if Text.trim name = key then
          let blanks := Text.byteLength value - Text.byteLength (Text.trimStart value)
          some ⟨offset + Text.byteLength name + 1 + blanks, Text.byteLength (Text.trim value)⟩
        else spanIn header key inTable next rest
      | none => spanIn header key inTable next rest
    else spanIn header key inTable next rest

/-- The span of the value of a key in the table with the given name. -/
def valueSpan? (text tableName key : String) : Option Span :=
  spanIn ('[' :: tableName.toList ++ [']']) key.toList false 0 (Text.lines text.toList)

end ApiSurvey.Settings
