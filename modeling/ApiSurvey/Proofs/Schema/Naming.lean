import ApiSurvey.Proofs.Json.Pointer
import ApiSurvey.Proofs.Schema.Component

/-!
# Names of components in references

A reference names a component by its name with the tildes replaced and then the slashes.  Whatever
the name is, unless it is empty, the reference is read as one to the name so written, and it leads
to the component of that very name.
-/

namespace ApiSurvey.Schema

open Json.Pointer

/-- The pointer of a component, with its name written behind that of the section. -/
def componentPointer (sectionName name : String) : String :=
  .ofList (sectionPointer sectionName ++ escapeInTurn name.toList)

lemma componentPointer_eq (sectionName name : String) : componentPointer sectionName name
    = .ofList (sectionPointer sectionName ++ escape name.toList) := by
  rw [componentPointer, escapeInTurn_eq]

/-- A node that names a component resolves to it, or to itself where there is none. -/
lemma Document.resolve_of_reference? (d : Document) {sectionName token : String} {node : Json}
    (h : reference? sectionName node = some token) :
    d.resolve sectionName node = (d.lookup? sectionName token).getD node := by
  rw [resolve, h, Option.bind_some]

/-- **A reference with the pointer of a component leads to that component**: it is accepted with the
written name, from which the two replacements backwards make the name again, and under which the
component is found that the section has under the name. -/
theorem resolve_componentPointer (d : Document) {sectionName name : String} {node : Json}
    (hname : name ≠ "")
    (hnode : node.get? "$ref" = some (.string (componentPointer sectionName name))) :
    reference? sectionName node = some (.ofList (escapeInTurn name.toList))
      ∧ unescapeInTurn (escapeInTurn name.toList) = name.toList
      ∧ d.lookup? sectionName (.ofList (escapeInTurn name.toList)) = d.component? sectionName name
      ∧ d.resolve sectionName node = (d.component? sectionName name).getD node := by
  rw [componentPointer_eq] at hnode
  have href : reference? sectionName node = some (writtenName name) :=
    reference?_of_pointer hname hnode
  have hlookup : d.lookup? sectionName (writtenName name) = d.component? sectionName name :=
    lookup?_writtenName d sectionName name
  rw [unescapeInTurn_eq, escapeInTurn_eq, unescape_escape]
  refine ⟨href, rfl, hlookup, ?_⟩
  rw [d.resolve_of_reference? href, hlookup]

/-! A name that looks like one with escapes, in another section than that of the schemas. -/

def tildedResponses : Document :=
  ⟨.object [("components", .object [("responses", .object [("~0/~1", .string "found")])])]⟩

def tildedReference : Json :=
  .object [("description", .null), ("$ref", .string "#/components/responses/~00~1~01")]

theorem resolve_componentPointer_tildes :
    tildedReference.get? "$ref" = some (.string (componentPointer "responses" "~0/~1"))
      ∧ unescapeInTurn (escapeInTurn "~0/~1".toList) = "~0/~1".toList
      ∧ tildedResponses.resolve "responses" tildedReference = .string "found" := by
  have hnode : tildedReference.get? "$ref"
      = some (.string (componentPointer "responses" "~0/~1")) := by
    rw [componentPointer_eq]
    decide
  obtain ⟨-, hname, -, hresolve⟩ := resolve_componentPointer tildedResponses (by decide) hnode
  exact ⟨hnode, hname, hresolve⟩

end ApiSurvey.Schema
