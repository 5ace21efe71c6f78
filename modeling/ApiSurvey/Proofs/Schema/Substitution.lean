import ApiSurvey.Proofs.Schema.References

/-!
# Substituting for references

A schema stands at the root of a value, as a property, as items, or in a composition.  Replacing
the schemas at these places that refer to components keeps everything else about a node: what it
requires, whether it is an array, its example, its enumerated values, and the order of the schemas
below it.
-/

namespace ApiSurvey.Schema

/-- What a value in a schema stands for. -/
inductive Role
  | schema
  /-- An object whose members are schemas. -/
  | schemasByName
  /-- A list of schemas. -/
  | schemaList
  | other
deriving DecidableEq

/-- What the member of a schema under a key stands for. -/
def Role.ofKey : String → Role
  | "properties" => .schemasByName
  | "items" => .schema
  | "allOf" | "oneOf" | "anyOf" => .schemaList
  | _ => .other

namespace Document

mutual

/-- The value with each schema in it that refers to a component replaced by what `expand` makes
of the component. -/
def substitute (d : Document) (expand : Json → Json) : Role → Json → Json
  | .schema, .object members =>
    match d.target? (.object members) with
    | some target => expand target
    | none => .object (substituteMembers d expand Role.ofKey members)
  | .schemasByName, .object schemas =>
    .object (substituteMembers d expand (fun _ => .schema) schemas)
  | .schemaList, .array schemas => .array (substituteItems d expand schemas)
  | _, v => v

def substituteMembers (d : Document) (expand : Json → Json) (role : String → Role) :
    Json.Members → Json.Members
  | [] => []
  | (key, v) :: members =>
    (key, substitute d expand (role key) v) :: substituteMembers d expand role members

def substituteItems (d : Document) (expand : Json → Json) : List Json → List Json
  | [] => []
  | v :: vs => substitute d expand .schema v :: substituteItems d expand vs

end

end Document

/-! ## Substitution in a node -/

namespace Node

/-- The node with the references below it replaced. -/
def substitute (d : Document) (expand : Json → Json) (n : Node) : Node :=
  ⟨d.substituteMembers expand Role.ofKey n.members⟩

variable (d : Document) (expand : Json → Json) (n : Node)

lemma lookup_substituteMembers (role : String → Role) (members : Json.Members) (key : String) :
    (d.substituteMembers expand role members).lookup key
      = (members.lookup key).map (d.substitute expand (role key)) := by
  induction members with
  | nil => simp [Document.substituteMembers]
  | cons entry members ih =>
    obtain ⟨k, v⟩ := entry
    rw [Document.substituteMembers, Json.lookup_cons, Json.lookup_cons, ih]
    split
    · next h => simp [h]
    · rfl

lemma get?_substitute (key : String) :
    (n.substitute d expand).get? key = (n.get? key).map (d.substitute expand (.ofKey key)) :=
  lookup_substituteMembers d expand Role.ofKey n.members key

lemma substitute_other (v : Json) : d.substitute expand .other v = v := by
  cases v <;> simp [Document.substitute]

/-- A member that holds no schemas stays as it is. -/
lemma get?_substitute_of_other (key : String) (h : Role.ofKey key = .other) :
    (n.substitute d expand).get? key = n.get? key := by
  rw [get?_substitute, h]
  cases n.get? key <;> simp [substitute_other]

lemma required_substitute : (n.substitute d expand).required = n.required := by
  simp only [required, list?, get?_substitute_of_other d expand n "required" rfl]

lemma isArray_substitute : (n.substitute d expand).isArray = n.isArray := by
  simp only [isArray, get?_substitute_of_other d expand n "type" rfl]

lemma example?_substitute : (n.substitute d expand).example? = n.example? := by
  simp only [example?, list?, get?_substitute_of_other d expand n "example" rfl,
    get?_substitute_of_other d expand n "examples" rfl]

lemma enum?_substitute : (n.substitute d expand).enum? = n.enum? := by
  simp only [enum?, list?, get?_substitute_of_other d expand n "enum" rfl]

lemma isReadOnly_substitute : (n.substitute d expand).isReadOnly = n.isReadOnly := by
  simp only [isReadOnly, get?_substitute_of_other d expand n "readOnly" rfl]

/-! The schemas below the node are those of the node with their references replaced. -/

lemma substituteItems_eq_map (vs : List Json) :
    d.substituteItems expand vs = vs.map (d.substitute expand .schema) := by
  induction vs with
  | nil => rfl
  | cons v vs ih => rw [Document.substituteItems, ih, List.map_cons]

lemma substituteMembers_eq_map (role : String → Role) (members : Json.Members) :
    d.substituteMembers expand role members
      = members.map fun entry => (entry.1, d.substitute expand (role entry.1) entry.2) := by
  induction members with
  | nil => rfl
  | cons entry members ih => rw [Document.substituteMembers, ih, List.map_cons]

lemma list?_substitute (key : String) (h : Role.ofKey key = .schemaList) :
    (n.substitute d expand).list? key
      = (n.list? key).map (List.map (d.substitute expand .schema)) := by
  rw [list?, list?, get?_substitute, h]
  rcases n.get? key with _ | v
  · rfl
  · cases v <;> simp [Document.substitute, Json.items?, substituteItems_eq_map]

lemma properties_substitute :
    ((n.substitute d expand).get? "properties").bind Json.members?
      = ((n.get? "properties").bind Json.members?).map
          (List.map fun entry => (entry.1, d.substitute expand .schema entry.2)) := by
  rw [get?_substitute, show Role.ofKey "properties" = .schemasByName from rfl]
  rcases n.get? "properties" with _ | v
  · rfl
  · cases v <;> simp [Document.substitute, Json.members?, substituteMembers_eq_map]

lemma exits_substitute :
    (n.substitute d expand).exits
      = n.exits.map fun out => (out.1, d.substitute expand .schema out.2) := by
  simp only [exits, facets, List.flatMap_append, List.map_append, isArray_substitute]
  -- one goal for each facet, in their order
  refine congrArg₂ _ (congrArg₂ _ (congrArg₂ _ (congrArg₂ _ ?_ ?_) ?_) ?_) ?_
  · rw [properties_substitute]
    cases (n.get? "properties").bind Json.members? <;> simp [Facet.exits, Function.comp_def]
  · rw [get?_substitute, show Role.ofKey "items" = .schema from rfl]
    cases n.isArray <;> cases n.get? "items" <;> simp [Facet.exits]
  · rw [list?_substitute d expand n "allOf" rfl]
    cases n.list? "allOf" <;> simp [Facet.exits, Function.comp_def]
  · rw [list?_substitute d expand n "oneOf" rfl]
    cases n.list? "oneOf" <;> simp [Facet.exits, Function.comp_def]
  · rw [list?_substitute d expand n "anyOf" rfl]
    cases n.list? "anyOf" <;> simp [Facet.exits, Function.comp_def]

lemma valueFindings_substitute (path : String) :
    valueFindings path (n.substitute d expand) = valueFindings path n := by
  simp only [valueFindings, example?_substitute, enum?_substitute]

end Node

/-! ## Substitution in a schema -/

namespace Document

variable {d : Document} {expand : Json → Json} {schema target : Json}

lemma substitute_of_target (h : d.target? schema = some target) :
    d.substitute expand .schema schema = expand target := by
  cases schema with
  | object members => simp [substitute, h]
  | _ => simp [target?, reference?, Json.get?] at h

lemma substitute_of_node (hnone : d.target? schema = none) {node : Node}
    (hnode : Node.of? schema = some node) :
    d.substitute expand .schema schema = .object (node.substitute d expand).members := by
  obtain rfl := Node.of?_eq_some_iff.1 hnode
  simp [substitute, hnone, Node.substitute]

lemma node?_substitute (hnone : d.target? schema = none) :
    Node.of? (d.substitute expand .schema schema)
      = (Node.of? schema).map (Node.substitute d expand) := by
  cases hnode : Node.of? schema with
  | some node => rw [substitute_of_node hnone hnode, Node.of?_eq_some_iff.2 rfl, Option.map_some]
  | none =>
    cases schema with
    | object members => simp [Node.of?, Json.members?] at hnode
    | _ => simp [substitute, Node.of?, Json.members?]

lemma reference?_substitute (hnone : d.target? schema = none) :
    reference? schemasSection (d.substitute expand .schema schema)
      = reference? schemasSection schema := by
  cases schema with
  | object members =>
    have hget : (Json.object ((Node.mk members).substitute d expand).members).get? "$ref"
        = (Json.object members).get? "$ref" :=
      Node.get?_substitute_of_other d expand ⟨members⟩ "$ref" rfl
    rw [substitute_of_node hnone (Node.of?_eq_some_iff.2 rfl), reference?, reference?, hget]
  | _ => simp [substitute]

lemma target?_substitute (hnone : d.target? schema = none) :
    d.target? (d.substitute expand .schema schema) = none := by
  rw [target?, reference?_substitute hnone]
  exact hnone

/-- What is found on the way to a property does not depend on the references below it. -/
lemma propertyFindings_substitute {property : Json}
    (hresolve : d.resolve schemasSection property = schema) (hnone : d.target? schema = none)
    (names : List String) (path key : String) :
    propertyFindings d names path key (d.substitute expand .schema schema)
      = propertyFindings d names path key property := by
  have hself : d.resolve schemasSection (d.substitute expand .schema schema)
      = d.substitute expand .schema schema := by
    rw [resolve_eq_getD_target?, target?_substitute hnone, Option.getD_none]
  rw [propertyFindings, propertyFindings, hself, hresolve, node?_substitute hnone]
  cases Node.of? schema <;> simp [Node.valueFindings_substitute, Node.isReadOnly_substitute]

end Document

end ApiSurvey.Schema
