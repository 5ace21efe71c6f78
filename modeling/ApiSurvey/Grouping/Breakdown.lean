import ApiSurvey.Grouping.Atom
import ApiSurvey.Grouping.Key
import ApiSurvey.Grouping.Options
import ApiSurvey.Grouping.Page
import ApiSurvey.Grouping.Tally

/-!
# Breakdown of a response

The items of a list are grouped by the keys that a path makes of them.  The paths of the options
are tried in order; the first that makes at least one key decides the groups, and nothing of an
earlier attempt is left in the result.  The groups are ordered by descending count, then by
collation of their keys.

Everything short of a missing list is part of the result: items without a key, items with several,
the absence of any usable path.
-/

namespace ApiSurvey.Grouping

/-- The items that contribute one key. -/
structure Group where
  key : String
  count : Nat
  /-- The count in percent of all items, to two decimals. -/
  percent : Binary64
deriving DecidableEq

/-- Why a breakdown has no groups. -/
inductive Note
  | noPath
  | noValues (tried : List String)
deriving DecidableEq, Repr

structure Breakdown where
  arrayPath : String
  /-- The path that made the groups. -/
  pathUsed : Option String
  groups : List Group
  /-- The first groups, as many as the options ask for. -/
  top : List Group
  /-- The number of items. -/
  total : Nat
  /-- The number of items without a key. -/
  missing : Nat
  /-- Whether some item has more than one key. -/
  multiValued : Bool
  /-- Whether the response looks like one page of a longer list. -/
  incomplete : Bool
  note : Option Note
deriving DecidableEq

/-- The kinds of JSON values, as they are named to readers. -/
inductive Kind
  | null
  | boolean
  | number
  | string
  | array
  | object
deriving DecidableEq, Repr

/-- What helps where a path leads to no list. -/
inductive Hint
  | responseIsArray
  /-- The members of the response that are lists. -/
  | arrayFields (names : List String)
deriving DecidableEq, Repr

/-- The array path leads to no list, but to something of another kind or nowhere. -/
structure ArrayNotFound where
  path : String
  found : Option Kind
  hint : Option Hint
deriving DecidableEq, Repr

def Kind.of : Json → Kind
  | .null => null
  | .bool _ => boolean
  | .number _ => number
  | .string _ => string
  | .array _ => array
  | .object _ => object

def Kind.phrase : Kind → String
  | null => "null"
  | boolean => "a boolean"
  | number => "a number"
  | string => "a string"
  | array => "an array"
  | object => "an object"

def Hint.message : Hint → String
  | responseIsArray => "the response itself is an array; use an empty array path"
  | arrayFields names => "top-level array fields: " ++ ", ".intercalate names

def Note.message : Note → String
  | noPath => "no group-by path was provided; only the item total is reported"
  | noValues tried =>
    "no values were extracted from any group-by path (tried: " ++ ", ".intercalate tried ++ ")"

namespace ArrayNotFound

/-- The hint that a response allows. -/
def hintFor (response : Json) : Option Hint :=
  match response with
  | .array _ => some .responseIsArray
  | .object members =>
    match (members.filter (·.2.isArray)).map Prod.fst with
    | [] => none
    | names => some (.arrayFields names)
  | _ => none

def message (e : ArrayNotFound) : String :=
  let found := e.found.elim "nothing" Kind.phrase
  "array path '" ++ e.path ++ "' did not resolve to an array (found " ++ found ++ ")"

def code : String := "lens::array_resolution"

end ArrayNotFound

/-- The share of `count` in `total`, in percent, rounded to two decimals. -/
def percent (count total : Nat) : Binary64 :=
  let share : Option Binary64 := do
    let ratio ← (← Binary64.ofNat count).div (← Binary64.ofNat total)
    let hundredths ← (← ratio.mul (← Binary64.ofNat 10000)).round
    hundredths.div (← Binary64.ofNat 100)
  share.getD (.zero false)

/-- One attempt at grouping: how often each key was contributed, how many items contributed none,
and whether some contributed several. -/
structure Attempt where
  tally : Tally
  missing : Nat
  multiValued : Bool
deriving DecidableEq

namespace Attempt

/-- The attempt with one path. -/
def run (items : List Json) (path : FieldPath) (normalizer : Normalizer) : Attempt :=
  let contributed := items.map path.atoms
  ⟨.ofKeys (contributed.flatten.map normalizer.apply), contributed.countP List.isEmpty,
    contributed.any (1 < ·.length)⟩

/-- The order of groups: by descending count, then by collation. -/
def inOrder (g h : Group) : Bool :=
  ((compare h.count g.count).then (collate g.key h.key)).isLE

def groups (a : Attempt) (total : Nat) : List Group :=
  (a.tally.map fun entry => ⟨entry.1, entry.2, percent entry.2 total⟩).mergeSort inOrder

end Attempt

/-- The first path that makes a key of some item, with its attempt. -/
def firstSuccess (items : List Json) (normalizer : Normalizer) :
    List String → Option (String × Attempt)
  | [] => none
  | path :: paths =>
    let attempt := Attempt.run items (.parse path) normalizer
    if attempt.tally.isEmpty then firstSuccess items normalizer paths else some (path, attempt)

/-- The breakdown of a list of items, apart from the response that it comes from. -/
def breakdownItems (items : List Json) (incomplete : Bool) (o : Options) : Breakdown :=
  let total := items.length
  let bare : Breakdown :=
    ⟨o.arrayPath, none, [], [], total, 0, false, incomplete, none⟩
  match o.candidates with
  | [] => { bare with note := some .noPath }
  | candidates =>
    match firstSuccess items o.normalizer candidates with
    | none => { bare with missing := total, note := some (.noValues candidates) }
    | some (path, attempt) =>
      let groups := attempt.groups total
      { bare with
        pathUsed := some path
        groups := groups
        top := groups.take o.topN
        missing := attempt.missing
        multiValued := attempt.multiValued }

/-- The breakdown of the list that the array path leads to. -/
def breakdown (response : Json) (o : Options) : Except ArrayNotFound Breakdown :=
  match response.resolve? o.arrayPath with
  | some (.array items) =>
    .ok (breakdownItems items ((Page.ofResponse response).isIncomplete items.length) o)
  | found => .error ⟨o.arrayPath, found.map Kind.of, ArrayNotFound.hintFor response⟩

namespace Breakdown

/-- The number of keys contributed by all items. -/
def contributions (b : Breakdown) : Nat :=
  b.groups.foldr (fun g n => g.count + n) 0

def groupJson (g : Group) : Json :=
  .object [("key", .string g.key), ("count", .ofNat g.count),
    ("percent", .number (.double g.percent))]

/-- The breakdown as JSON; what is absent is left out. -/
def toJson (b : Breakdown) : Json :=
  .object <|
    [("arrayPath", .string b.arrayPath)]
    ++ (b.pathUsed.map fun path => ("groupByPathUsed", Json.string path)).toList
    ++ [("groups", .array (b.groups.map groupJson)), ("top", .array (b.top.map groupJson)),
      ("total", .ofNat b.total), ("missing", .ofNat b.missing),
      ("multiValued", .bool b.multiValued), ("incomplete", .bool b.incomplete)]
    ++ (b.note.map fun note => ("note", Json.string note.message)).toList

end Breakdown

end ApiSurvey.Grouping
