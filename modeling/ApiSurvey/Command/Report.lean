import ApiSurvey.Grouping.Breakdown
import ApiSurvey.Schema.FieldTable

/-!
# Reports

Breakdowns and tables of fields as lines of text for readers.
-/

namespace ApiSurvey.Report

open Grouping Schema

/-- A title and its underline, as long as the title has characters. -/
def title (text : String) : List String :=
  [text, String.ofList (List.replicate text.length '=')]

/-- The lines as one text, each ended by a line break. -/
def ofLines (lines : List String) : String :=
  String.join (lines.map (· ++ "\n"))

def natText (n : Nat) : String :=
  String.ofList (digits n)

/-- The text with blanks after it, up to a width in characters. -/
def padEnd (width : Nat) (text : String) : String :=
  text ++ String.ofList (List.replicate (width - text.length) ' ')

/-! ## Breakdowns -/

/-- The line of a group, its place counted from one. -/
def groupLine (width : Nat) (g : Group) (place : Nat) : String :=
  "  " ++ natText place ++ ". " ++ padEnd width g.key ++ "  " ++ natText g.count ++ " ("
    ++ String.ofList g.percent.plain ++ "%)"

def topLines (b : Breakdown) : List String :=
  if b.top.isEmpty then []
  else
    let width := (b.top.map fun g => g.key.length).foldl max 0
    ["", "Top " ++ natText b.top.length ++ " of " ++ natText b.groups.length ++ ":"]
      ++ b.top.mapIdx fun i g => groupLine width g (i + 1)

/-- The report of a breakdown of what was read from `source`. -/
def breakdownLines (source : String) (b : Breakdown) : List String :=
  title (match b.pathUsed with
    | some path => "Groups by " ++ path
    | none => "Items in " ++ source)
  ++ ["Array path: " ++ (if b.arrayPath.isEmpty then "(root)" else b.arrayPath),
    "Items: " ++ natText b.total]
  ++ (if b.pathUsed.isSome then ["Missing: " ++ natText b.missing] else [])
  ++ (if b.multiValued then
        ["Contributions: " ++ natText b.contributions
          ++ " (items with several values count once per value)"]
      else [])
  ++ topLines b
  ++ (match b.note with
    | some note => ["", "Note: " ++ note.message]
    | none => [])

/-- The warnings about a breakdown. -/
def breakdownWarnings (b : Breakdown) : List String :=
  if b.incomplete then
    ["warning: the response looks like one page of a larger result; counts cover this page only"]
  else []

/-! ## Tables of fields -/

/-- How a path is shown; the empty path is the body itself. -/
def pathLabel (path : String) : String :=
  if path.isEmpty then "(body)" else path

/-- What a table tells about the field at a path. -/
def describe (t : FieldTable) (path : String) : String :=
  ", ".intercalate <|
    [if t.isRequired path then "required" else "optional"]
    ++ (if t.isReadOnly path then ["read-only"] else [])
    ++ ((t.example? path).map fun v => "example " ++ v.compact).toList
    ++ ((t.enum? path).map fun vs => "one of " ++ " | ".intercalate (vs.map Json.compact)).toList

def reasonText : Reason → String
  | .cycle reference => "cycles back to " ++ reference
  | .depth limit => "deeper than " ++ natText limit ++ " levels"

def fieldLines (t : FieldTable) : List String :=
  match t.paths with
  | [] => ["No fields found."]
  | paths =>
    ("Fields (" ++ natText paths.length ++ "):")
      :: paths.map fun path => "  " ++ pathLabel path ++ ": " ++ describe t path

def truncationLines (t : FieldTable) : List String :=
  if t.truncated.isEmpty then []
  else
    ["", "Not expanded:"] ++ t.truncated.map fun truncation =>
      "  - " ++ pathLabel truncation.path ++ ": " ++ reasonText truncation.reason

/-- The report of a table of fields. -/
def tableLines (target : String) (t : FieldTable) : List String :=
  title ("Fields of " ++ target) ++ fieldLines t ++ truncationLines t

end ApiSurvey.Report
