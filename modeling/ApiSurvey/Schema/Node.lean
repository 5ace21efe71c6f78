import ApiSurvey.Json.Basic

/-!
# Schema nodes

A schema is an object that may have several shapes at once: properties of its own, items if it is
an array, and branches that it is composed of or chooses from.  Each shape is a facet of the node.
Members of another type than expected do not count.
-/

namespace ApiSurvey.Schema

/-- The members of a schema object. -/
structure Node where
  members : Json.Members

/-- One shape of a schema. -/
inductive Facet
  /-- The schemas of the properties of an object. -/
  | properties (schemas : Json.Members)
  /-- The schema of the elements of an array. -/
  | items (schema : Json)
  /-- Schemas that hold together. -/
  | allOf (branches : List Json)
  /-- Schemas of which exactly one holds. -/
  | oneOf (branches : List Json)
  /-- Schemas of which at least one holds. -/
  | anyOf (branches : List Json)

namespace Node

/-- The node of a schema; only objects have one. -/
def of? (schema : Json) : Option Node :=
  schema.members?.map Node.mk

theorem of?_eq_some_iff {schema : Json} {n : Node} :
    of? schema = some n ↔ schema = .object n.members := by
  obtain ⟨members⟩ := n
  simp [of?, Json.members?_eq_some_iff]

def get? (n : Node) (key : String) : Option Json :=
  n.members.lookup key

/-- The list under a key. -/
def list? (n : Node) (key : String) : Option (List Json) :=
  (n.get? key).bind Json.items?

/-- The names of the properties that the node itself requires. -/
def required (n : Node) : List String :=
  ((n.list? "required").getD []).filterMap Json.string?

/-- Whether the type is, or may be, an array. -/
def isArray (n : Node) : Bool :=
  match n.get? "type" with
  | some (.string type) => type == "array"
  | some (.array types) => types.any fun type => type.string? == some "array"
  | _ => false

/-- The example, or else the first of the examples. -/
def example? (n : Node) : Option Json :=
  (n.get? "example").or ((n.list? "examples").bind List.head?)

/-- The values that the schema enumerates. -/
def enum? (n : Node) : Option (List Json) :=
  n.list? "enum"

def isReadOnly (n : Node) : Bool :=
  (n.get? "readOnly").bind Json.bool? == some true

/-- The shapes of the node, in the order in which they are walked. -/
def facets (n : Node) : List Facet :=
  (((n.get? "properties").bind Json.members?).map Facet.properties).toList
  ++ (if n.isArray then ((n.get? "items").map Facet.items).toList else [])
  ++ ((n.list? "allOf").map Facet.allOf).toList
  ++ ((n.list? "oneOf").map Facet.oneOf).toList
  ++ ((n.list? "anyOf").map Facet.anyOf).toList

end Node

end ApiSurvey.Schema
