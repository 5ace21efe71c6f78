import ApiSurvey.Json.Record

/-!
# Tables of fields

What is known of the fields of a schema, by path: an example, the enumerated values, whether the
field is required or read-only, and where the schema was not followed any further.  A table is
filled finding by finding.  The first example at a path is kept; enumerated values at one path are
united, equal ones counted once; the lists of paths have each path once, in order of discovery.
-/

namespace ApiSurvey.Schema

/-- Why a branch of a schema was not followed. -/
inductive Reason
  /-- It leads back to a component that is being expanded; the name is as written there. -/
  | cycle (reference : String)
  /-- It lies deeper than the limit. -/
  | depth (limit : Nat)
deriving DecidableEq, Repr

structure Truncation where
  path : String
  reason : Reason
deriving DecidableEq, Repr

/-- One observation about the field at a path. -/
inductive Finding
  | required (path : String)
  | readOnly (path : String)
  | exampleValue (path : String) (value : Json)
  | enumValues (path : String) (values : List Json)
  | truncated (truncation : Truncation)
deriving DecidableEq

structure FieldTable where
  /-- One example by path, in order of discovery. -/
  examples : List (String × Json)
  /-- The enumerated values by path, in order of discovery. -/
  enums : List (String × List Json)
  required : List String
  readOnly : List String
  truncated : List Truncation
deriving DecidableEq

namespace FieldTable

def empty : FieldTable := ⟨[], [], [], [], []⟩

/-- The list with an element appended, unless it is there already. -/
def appendNew {α : Type} [DecidableEq α] (known : List α) (a : α) : List α :=
  if a ∈ known then known else known ++ [a]

/-- The values with the new ones appended, one of each that are equal as data. -/
def unite (known values : List Json) : List Json :=
  values.foldl (fun known v => if known.any (·.same v) then known else known ++ [v]) known

/-- The table with the values united with those at the path. -/
def uniteAt (table : List (String × List Json)) (path : String) (values : List Json) :
    List (String × List Json) :=
  match table with
  | [] => [(path, unite [] values)]
  | (p, known) :: rest =>
    if p = path then (p, unite known values) :: rest else (p, known) :: uniteAt rest path values

/-- The table with one more finding. -/
def record (t : FieldTable) : Finding → FieldTable
  | .required path => { t with required := appendNew t.required path }
  | .readOnly path => { t with readOnly := appendNew t.readOnly path }
  | .exampleValue path value =>
    if (t.examples.lookup path).isSome then t
    else { t with examples := t.examples ++ [(path, value)] }
  | .enumValues path values =>
    if values.isEmpty then t else { t with enums := uniteAt t.enums path values }
  | .truncated truncation => { t with truncated := t.truncated ++ [truncation] }

/-- The table with the findings added in order. -/
def recordAll (t : FieldTable) (findings : List Finding) : FieldTable :=
  findings.foldl record t

def isRequired (t : FieldTable) (path : String) : Bool :=
  t.required.contains path

def isReadOnly (t : FieldTable) (path : String) : Bool :=
  t.readOnly.contains path

def example? (t : FieldTable) (path : String) : Option Json :=
  t.examples.lookup path

def enum? (t : FieldTable) (path : String) : Option (List Json) :=
  t.enums.lookup path

/-- Every path that the table tells something about, once, in order. -/
def paths (t : FieldTable) : List String :=
  (t.required ++ t.readOnly ++ t.examples.map Prod.fst ++ t.enums.map Prod.fst).foldl appendNew []

/-- Whether nothing is known of any field. -/
def isEmpty (t : FieldTable) : Bool :=
  t.examples.isEmpty && t.enums.isEmpty && t.required.isEmpty && t.readOnly.isEmpty

theorem recordAll_append (t : FieldTable) (a b : List Finding) :
    t.recordAll (a ++ b) = (t.recordAll a).recordAll b := by
  simp [recordAll, List.foldl_append]

/-! ## JSON form -/

def truncationJson (t : Truncation) : Json :=
  .object <| ("path", .string t.path) :: match t.reason with
    | .cycle reference => [("reason", .string "cycle"), ("reference", .string reference)]
    | .depth limit => [("reason", .string "depth"), ("limit", .ofNat limit)]

/-- The table as JSON; the list of truncations is left out when empty. -/
def toJson (t : FieldTable) : Json :=
  .object <|
    [("examples", .object t.examples),
      ("enums", .object (t.enums.map fun entry => (entry.1, .array entry.2))),
      ("required", .array (t.required.map .string)),
      ("readOnlyFields", .array (t.readOnly.map .string))]
    ++ (if t.truncated.isEmpty then []
        else [("truncated", .array (t.truncated.map truncationJson))])

/-- The kinds of reasons, by name or by number. -/
inductive ReasonTag
  | cycle
  | depth

def ReasonTag.ofJson? : Json → Option ReasonTag
  | .string "cycle" => some cycle
  | .string "depth" => some depth
  | .number (.integer 0) => some cycle
  | .number (.integer 1) => some depth
  | _ => none

/-- A truncation is an object only, since its members depend on the reason. -/
def readTruncation? : Json → Option Truncation
  | .object members => do
    let path ← (members.lookup "path").bind Json.string?
    match ← (members.lookup "reason").bind ReasonTag.ofJson? with
    | .cycle => return ⟨path, .cycle (← (members.lookup "reference").bind Json.string?)⟩
    | .depth => return ⟨path, .depth (← (members.lookup "limit").bind Json.size?)⟩
  | _ => none

def readEnums? (v : Json) : Option (List (String × List Json)) := do
  (← v.members?).mapM fun entry => do return (entry.1, ← entry.2.items?)

def readTruncated? (v : Json) : Option (List Truncation) := do
  (← v.items?).mapM readTruncation?

/-- The names of the parts of a table, in order. -/
def memberNames : List String :=
  ["examples", "enums", "required", "readOnlyFields", "truncated"]

/-- The table that a record describes. -/
def ofJson? (v : Json) : Option FieldTable := do
  match ← v.record? memberNames with
  | [examples, enums, required, readOnly, truncated] =>
    return {
      examples := ← Json.required Json.members? examples
      enums := ← Json.required readEnums? enums
      required := ← Json.required Json.strings? required
      readOnly := ← Json.required Json.strings? readOnly
      truncated := ← Json.optional readTruncated? [] truncated }
  | _ => none

end FieldTable

end ApiSurvey.Schema
