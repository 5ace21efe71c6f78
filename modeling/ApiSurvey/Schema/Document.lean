import ApiSurvey.Json.Basic
import ApiSurvey.Json.Pointer
import ApiSurvey.Text.Split

/-!
# Documents and references

A document keeps named components in sections.  A reference is an object whose `$ref` is the
pointer of a component; only references within the document are known, and a reference is followed
one step at a time.  The name in a pointer is written with escapes, so two references may be
written differently and lead to the same component.
-/

namespace ApiSurvey.Schema

/-- A description of an interface: a JSON value, most often an object. -/
structure Document where
  root : Json
deriving DecidableEq

/-- The section of the components that are schemas. -/
def schemasSection : String := "schemas"

/-- The section of the components that are request bodies. -/
def requestBodiesSection : String := "requestBodies"

/-- The pointer of a section, up to the name. -/
def sectionPointer (sectionName : String) : List Char :=
  "#/components/".toList ++ sectionName.toList ++ ['/']

/-- The name that a node refers to within a section, as it is written in the pointer. -/
def reference? (sectionName : String) (node : Json) : Option String := do
  let pointer ← (← node.get? "$ref").string?
  let token ← Text.stripLead (sectionPointer sectionName) pointer.toList
  if token.isEmpty || token.contains '/' then none else some (String.ofList token)

/-- The name of the component that a written name stands for. -/
def componentName (token : String) : String :=
  String.ofList (Json.Pointer.unescape token.toList)

/-- A reference to a component schema. -/
def schemaReference (name : String) : Json :=
  .object [("$ref", .string (String.ofList
    (sectionPointer schemasSection ++ Json.Pointer.escape name.toList)))]

namespace Document

/-- The component of a section under its name. -/
def component? (d : Document) (sectionName name : String) : Option Json := do
  (← (← d.root.get? "components").get? sectionName).get? name

/-- The component of a section under its name as written in a pointer. -/
def lookup? (d : Document) (sectionName token : String) : Option Json :=
  d.component? sectionName (componentName token)

/-- The component that a node refers to, or the node itself if it refers to none that exists. -/
def resolve (d : Document) (sectionName : String) (node : Json) : Json :=
  ((reference? sectionName node).bind (d.lookup? sectionName)).getD node

end Document

end ApiSurvey.Schema
