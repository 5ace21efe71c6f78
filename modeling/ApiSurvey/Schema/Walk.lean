import ApiSurvey.FieldPath.Basic
import ApiSurvey.Schema.Document
import ApiSurvey.Schema.FieldTable
import ApiSurvey.Schema.Node

/-!
# Walking a schema

A walk goes from a schema to the schemas below it, through references, and collects findings about
the fields on its way.  Names required by a node count for the properties below it as long as they
describe the same object:

* `properties` and `allOf` pass on what is inherited together with what the node itself requires;
* `items`, `oneOf` and `anyOf` pass on what is inherited only.

A walk never fails.  What is no object, and a reference to a component that is missing, has
nothing to follow; a reference to a component that is already being expanded is cut and noted, and
so is every branch below the depth limit.

A schema counts as itself, not as one that is equal to it.  A reference that leads a schema to
itself leads nowhere else, and the schema is walked as if it were none; whether a reference does so
depends on the site of the schema in the document, of which a walk therefore keeps track.
-/

namespace ApiSurvey.Schema

/-! ## Sites -/

/-- Where a schema stands, as far as a reference can lead to it.  From elsewhere a walk comes to a
component through references only; from the section of the component schemas as a whole, which
may itself have the form of an array, it also comes to the component that is called `items`. -/
inductive Site
  | elsewhere
  /-- The section of the component schemas. -/
  | schemas
  | component (name : String)
deriving DecidableEq, Repr

/-- The site of the items of a schema. -/
def Site.items : Site → Site
  | .schemas => .component "items"
  | _ => .elsewhere

/-- The schema is the one at the site; any schema may stand elsewhere. -/
def Document.Stands (d : Document) : Site → Json → Prop
  | .elsewhere, _ => True
  | .schemas, schema => (d.root.get? "components").bind (·.get? schemasSection) = some schema
  | .component name, schema => d.component? schemasSection name = some schema

/-- A schema from which a walk may begin, with its site in the document. -/
structure Origin (d : Document) where
  schema : Json
  site : Site
  stands : d.Stands site schema

/-- A schema that is none of the components; it may be equal to one. -/
def Origin.value {d : Document} (schema : Json) : Origin d :=
  ⟨schema, .elsewhere, trivial⟩

instance (d : Document) : Coe Json (Origin d) := ⟨Origin.value⟩

/-- A component itself. -/
def Origin.component {d : Document} (name : String) (schema : Json)
    (h : d.component? schemasSection name = some schema) : Origin d :=
  ⟨schema, .component name, h⟩

/-! ## Visits -/

/-- A place in a walk. -/
structure Visit where
  schema : Json
  site : Site
  path : String
  /-- The names that the schemas above require. -/
  inherited : List String
  /-- The references being expanded, as they are written, innermost first. -/
  active : List String

namespace Visit

/-- The beginning of a walk at a path. -/
def start {d : Document} (o : Origin d) (path : String) : Visit :=
  ⟨o.schema, o.site, path, [], []⟩

/-- The visit of a schema below, within the same expansions. -/
def below (v : Visit) (schema : Json) (site : Site) (path : String) (inherited : List String) :
    Visit :=
  ⟨schema, site, path, inherited, v.active⟩

end Visit

/-- One way on from a visit: what is found on the way, and where it leads. -/
structure Edge where
  found : List Finding
  next : Visit

/-- What a visit leads to. -/
inductive Outlook
  /-- Nowhere, since the reference is being expanded already. -/
  | cut (reference : String)
  | edges (ways : List Edge)

/-- The example and the enumerated values of a node, noted at a path. -/
def valueFindings (path : String) (n : Node) : List Finding :=
  (n.example?.map (Finding.exampleValue path)).toList
  ++ (n.enum?.map (Finding.enumValues path)).toList

/-- What is found of a property on the way to it; its schema is looked up one reference further. -/
def propertyFindings (d : Document) (required : List String) (path key : String)
    (schema : Json) : List Finding :=
  (if required.contains key then [.required path] else [])
  ++ match Node.of? (d.resolve schemasSection schema) with
    | some n => valueFindings path n ++ (if n.isReadOnly then [.readOnly path] else [])
    | none => []

namespace Visit

/-- The ways through one facet of the node at a visit. -/
def throughFacet (d : Document) (v : Visit) (n : Node) : Facet → List Edge
  | .properties schemas => schemas.map fun (key, schema) =>
    let path := FieldPath.join v.path key
    let required := v.inherited ++ n.required
    ⟨propertyFindings d required path key schema, v.below schema .elsewhere path required⟩
  | .items schema =>
    let path := FieldPath.elements v.path
    [⟨valueFindings path n, v.below schema v.site.items path v.inherited⟩]
  | .allOf branches =>
    let required := v.inherited ++ n.required
    branches.map fun schema => ⟨[], v.below schema .elsewhere v.path required⟩
  | .oneOf branches =>
    branches.map fun schema => ⟨[], v.below schema .elsewhere v.path v.inherited⟩
  | .anyOf branches =>
    branches.map fun schema => ⟨[], v.below schema .elsewhere v.path v.inherited⟩

/-- The ways through all facets of the schema at a visit. -/
def throughFacets (d : Document) (v : Visit) : List Edge :=
  match Node.of? v.schema with
  | some n => n.facets.flatMap (v.throughFacet d n)
  | none => []

/-- The visit of the component that a reference leads to, unless that is the schema itself. -/
def expand? (d : Document) (v : Visit) (token : String) : Option Visit := do
  let target ← d.lookup? schemasSection token
  if v.site = .component (componentName token) then none
  else some ⟨target, .component (componentName token), v.path, v.inherited, token :: v.active⟩

/-- What a visit leads to. -/
def outlook (d : Document) (v : Visit) : Outlook :=
  match reference? schemasSection v.schema with
  | none => .edges (v.throughFacets d)
  | some token =>
    if v.active.contains token then .cut token
    else match v.expand? d token with
      | some next => .edges [⟨[], next⟩]
      | none => .edges (v.throughFacets d)

end Visit

/-- The findings from a visit on, with so many levels left; `limit` is the limit that is noted
where none is left. -/
def findings (d : Document) (limit : Nat) : Nat → Visit → List Finding
  | 0, v => [.truncated ⟨v.path, .depth limit⟩]
  | levels + 1, v =>
    match v.outlook d with
    | .cut reference => [.truncated ⟨v.path, .cycle reference⟩]
    | .edges ways => ways.flatMap fun way => way.found ++ findings d limit levels way.next

/-- The depth that a walk may reach where nothing else is said. -/
def defaultMaxDepth : Nat := 64

/-- The findings of a walk from a schema, standing at a path. -/
def walkFindings (d : Document) (maxDepth : Nat) (o : Origin d) (path : String) : List Finding :=
  findings d maxDepth (maxDepth + 1) (.start o path)

/-- The table with the findings of one more walk. -/
def FieldTable.walk (t : FieldTable) (d : Document) (maxDepth : Nat) (o : Origin d)
    (path : String) : FieldTable :=
  t.recordAll (walkFindings d maxDepth o path)

/-- The fields of a schema that describes a whole body. -/
def bodyTable (d : Document) (maxDepth : Nat) (o : Origin d) : FieldTable :=
  FieldTable.empty.walk d maxDepth o ""

/-- The fields of a component schema, if it exists.  The walk begins at a reference to it. -/
def componentTable? (d : Document) (maxDepth : Nat) (name : String) : Option FieldTable :=
  (d.lookup? schemasSection name).map fun _ =>
    bodyTable d maxDepth (.value (schemaReference name))

end ApiSurvey.Schema
