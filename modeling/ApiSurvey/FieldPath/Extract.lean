import ApiSurvey.FieldPath.Basic
import ApiSurvey.Number.Numeral

/-!
# Values at a path

Resolving follows the keys of a path literally and arrives at one value or none.  Extracting also
expands arrays and arrives at a list of values; an entry of it is absent where the last key is
missing from an object that was reached.  Null and absent values are not followed any further.
-/

namespace ApiSurvey

namespace Json

/-- The value one key down: a member of an object, or the element of an array that a decimal index
names. -/
def child? (v : Json) (key : String) : Option Json :=
  match v with
  | object members => members.lookup key
  | array items =>
    if key.isEmpty then none
    else if key.toList.all isDigit then (readDigits? 10 key.toList).bind (items[·]?)
    else none
  | _ => none

/-- The value that the keys of a path lead to, without expansion. -/
def resolve? (root : Json) (path : String) : Option Json :=
  (FieldPath.tokens path).foldlM child? root

end Json

namespace Segment

/-- Where a segment leads from one value. -/
def target? (s : Segment) (v : Json) : Option Json :=
  if s.key.isEmpty then some v else v.child? s.key

/-- The entries that a segment makes of one value. -/
def step (s : Segment) (v : Json) : List (Option Json) :=
  if v.isNull then []
  else if s.expand then
    match s.target? v with
    | some (.array items) => items.map some
    | _ => []
  else [s.target? v]

end Segment

namespace FieldPath

/-- The entries that a path leads to from the given ones. -/
def follow (entries : List (Option Json)) (segments : List Segment) : List (Option Json) :=
  segments.foldl (fun entries s => (entries.filterMap id).flatMap s.step) entries

/-- The entries that a path leads to from `root`. -/
def extract (root : Json) (p : FieldPath) : List (Option Json) :=
  follow [some root] p.segments

theorem follow_nil (entries : List (Option Json)) : follow entries [] = entries := rfl

theorem follow_append (entries : List (Option Json)) (s t : List Segment) :
    follow entries (s ++ t) = follow (follow entries s) t := by
  simp [follow, List.foldl_append]

end FieldPath

end ApiSurvey
