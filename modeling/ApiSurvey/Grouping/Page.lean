import ApiSurvey.FieldPath.Extract

/-!
# Pages

A response may be one page of a longer list.  It says so by the numbers `count`, `offset` and
`limit` at its top level: items are missing if the page ends before the count, and may be missing
if it is filled to its limit.  The comparison is that of doubles.
-/

namespace ApiSurvey.Grouping

/-- What a response says about its place in a longer list. -/
structure Page where
  count : Option Binary64
  offset : Option Binary64
  limit : Option Binary64
deriving DecidableEq

namespace Page

/-- The page that the top level of a response describes; what is not a number does not count. -/
def ofResponse (response : Json) : Page :=
  let number (key : String) := (response.resolve? key).bind Json.double?
  ⟨number "count", number "offset", number "limit"⟩

/-- Whether the page ends before the count. -/
def endsBeforeCount (p : Page) (returned : Binary64) : Bool :=
  p.count.any fun count =>
    match (p.offset.getD (.zero false)).add returned with
    | some reached => reached.lt count
    | none => false

/-- Whether a page with so many items looks like part of a longer list. -/
def isIncomplete (p : Page) (returned : Nat) : Bool :=
  match Binary64.ofNat returned with
  | some n => p.endsBeforeCount n || p.limit.any n.sameValue
  | none => false

end Page

end ApiSurvey.Grouping
