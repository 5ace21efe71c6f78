import ApiSurvey.Proofs.Schema.Component
import ApiSurvey.Proofs.Schema.Recorded

/-!
# Which paths are required

A branch of a walk goes from the root schema through nodes and over references.  What makes a
property required at the end of a branch is said here of the branch alone, without the names that
a walk carries along: the node there requires it itself, or a node further up does that the branch
leaves for one of its properties or for a schema of its `allOf`.  Such a node counts however the
branch goes on below; a node that is left for its items or for an alternative does not, and
neither does the schema that a reference stands in.  What a node requires, and which schemas are
below it, is read off its members as they are written.
-/

namespace ApiSurvey.Schema

/-- One step of a branch. -/
inductive Leg
  /-- From a node to a schema below it. -/
  | through (node : Node) (exit : Exit)
  /-- From a reference to the component that it leads to. -/
  | hop (token : String)

/-- The steps of a branch, the last one first. -/
abbrev Trail := List Leg

namespace Trail

/-- The path at the end of a branch that begins at the path `base`. -/
def path (base : String) : Trail → String
  | [] => base
  | .through _ exit :: trail => exit.path (path base trail)
  | .hop _ :: trail => path base trail

/-- The references that a branch has followed, as they are written. -/
def references : Trail → List String
  | [] => []
  | .through _ _ :: trail => references trail
  | .hop token :: trail => token :: references trail

/-- The site of the schema at the end of a branch that begins at a site. -/
def site (first : Site) : Trail → Site
  | [] => first
  | .through _ exit :: trail => exit.site (site first trail)
  | .hop token :: _ => .component (componentName token)

/-- A node of the branch requires the name of what follows: it lists the name, and the branch
leaves it for a property or for a schema of its `allOf`. -/
def Requires (trail : Trail) (name : String) : Prop :=
  ∃ node exit, Leg.through node exit ∈ trail ∧ exit.passesOwn = true ∧ node.Lists name

end Trail

/-- The branches of a walk: a trail from the root schema, and the schema to which it leads. -/
inductive Branch (d : Document) (o : Origin d) : Trail → Json → Prop
  | root : Branch d o [] o.schema
  | through {trail : Trail} {schema below : Json} {node : Node} {exit : Exit}
      (h : Branch d o trail schema) (opens : d.Opens trail.references (trail.site o.site) schema)
      (hnode : Node.of? schema = some node) (hbelow : node.Has below exit) :
      Branch d o (.through node exit :: trail) below
  | hop {trail : Trail} {schema target : Json} {token : String}
      (h : Branch d o trail schema)
      (follows : d.Follows trail.references (trail.site o.site) schema token target) :
      Branch d o (.hop token :: trail) target

/-! ## The visit at the end of a branch -/

namespace Trail

/-- The names that a walk carries to the end of a branch. -/
def inherited : Trail → List String
  | [] => []
  | .through node exit :: trail => exit.inherited node (inherited trail)
  | .hop _ :: trail => inherited trail

/-- The names that a walk carries along are those that nodes of the branch require. -/
lemma mem_inherited_iff {trail : Trail} {name : String} :
    name ∈ trail.inherited ↔ trail.Requires name := by
  induction trail with
  | nil => simp [inherited, Requires]
  | cons leg trail ih =>
    cases leg with
    | hop token => simpa [inherited, Requires] using ih
    | through node exit =>
      have hcons : Requires (.through node exit :: trail) name ↔
          (exit.passesOwn = true ∧ node.Lists name) ∨ Requires trail name := by
        constructor
        · rintro ⟨node', exit', hleg, hown, hname⟩
          rcases List.mem_cons.1 hleg with heq | hleg
          · obtain ⟨rfl, rfl⟩ := Leg.through.inj heq
            exact Or.inl ⟨hown, hname⟩
          · exact Or.inr ⟨node', exit', hleg, hown, hname⟩
        · rintro (⟨hown, hname⟩ | ⟨node', exit', hleg, hown, hname⟩)
          · exact ⟨node, exit, List.mem_cons_self, hown, hname⟩
          · exact ⟨node', exit', List.mem_cons_of_mem _ hleg, hown, hname⟩
      rw [hcons, ← ih, inherited, Exit.inherited, ← Node.mem_required_iff]
      by_cases hown : exit.passesOwn = true
      · simp [hown, or_comm]
      · simp [hown]

/-- The visit of the schema at the end of a branch that begins at a site and at the path `base`. -/
def visit (first : Site) (base : String) (trail : Trail) (schema : Json) : Visit :=
  ⟨schema, trail.site first, trail.path base, trail.inherited, trail.references⟩

end Trail

variable {d : Document} {o : Origin d} {base : String}

lemma Branch.reaches {trail : Trail} {schema : Json} (h : Branch d o trail schema) :
    Reaches d (.start o base) trail.length (trail.visit o.site base schema) := by
  induction h with
  | root => exact .refl
  | @through trail schema below node exit h opens hnode hbelow ih =>
    exact ih.wayOut (u := trail.visit o.site base schema) opens hnode (Node.mem_exits_iff.2 hbelow)
  | @hop trail schema target token h follows ih =>
    exact ih.hop (u := trail.visit o.site base schema) follows

/-- A walk reaches what stands at the ends of branches. -/
lemma reaches_start_iff {v : Visit} {n : Nat} :
    Reaches d (.start o base) n v ↔
      ∃ trail schema, Branch d o trail schema ∧ trail.length = n
        ∧ v = trail.visit o.site base schema := by
  constructor
  · intro h
    induction h using Reaches.step_induction_on with
    | refl => exact ⟨[], o.schema, .root, rfl, rfl⟩
    | @hop n u token target h hfollows ih =>
      obtain ⟨trail, schema, hbranch, rfl, rfl⟩ := ih
      exact ⟨.hop token :: trail, target, hbranch.hop hfollows, rfl, rfl⟩
    | @wayOut n u node out h hopens hnode hout ih =>
      obtain ⟨trail, schema, hbranch, rfl, rfl⟩ := ih
      exact ⟨.through node out.1 :: trail, out.2,
        hbranch.through hopens hnode (Node.mem_exits_iff.1 hout), rfl, rfl⟩
  · rintro ⟨trail, schema, h, rfl, rfl⟩
    exact h.reaches

/-! ## Required paths -/

/-- The properties of a node are those of the object at `properties`. -/
lemma exists_property_mem_exits {n : Node} {key : String} :
    (∃ schema, (Exit.property key, schema) ∈ n.exits) ↔
      ∃ schemas, n.get? "properties" = some (.object schemas) ∧ key ∈ schemas.map Prod.fst := by
  simp only [Node.mem_exits_iff, Node.Has]
  constructor
  · rintro ⟨schema, schemas, hschemas, hkey⟩
    exact ⟨schemas, hschemas, List.mem_map_of_mem hkey⟩
  · rintro ⟨schemas, hschemas, hkey⟩
    obtain ⟨⟨key, schema⟩, hentry, rfl⟩ := List.mem_map.1 hkey
    exact ⟨schema, schemas, hschemas, hentry⟩

lemma required_notMem_valueFindings {p path : String} {n : Node} :
    Finding.required p ∉ valueFindings path n := by
  simp [valueFindings]

/-- On the way to a property, only the property itself is found to be required. -/
lemma required_mem_propertyFindings {names : List String} {p path key : String} {schema : Json} :
    Finding.required p ∈ propertyFindings d names path key schema ↔ key ∈ names ∧ p = path := by
  cases hn : Node.of? (d.resolve schemasSection schema) with
  | none => simp [propertyFindings, hn]
  | some n => simp [propertyFindings, hn, required_notMem_valueFindings]

lemma required_mem_found {v : Visit} {p : String} :
    Finding.required p ∈ v.found d ↔
      d.Opens v.active v.site v.schema ∧ ∃ node, Node.of? v.schema = some node ∧
        ∃ key schema, (Exit.property key, schema) ∈ node.exits
          ∧ key ∈ v.inherited ++ node.required ∧ p = FieldPath.join v.path key := by
  rcases Visit.cut_or_follows_or_opens d v with
    ⟨token, href, hactive⟩ | ⟨token, target, hfollows⟩ | hopens
  · have hclosed : ¬ d.Opens v.active v.site v.schema := fun h => (h token href).1 hactive
    simp [Visit.found, Visit.outlook_of_cut href hactive, hclosed]
  · have hclosed : ¬ d.Opens v.active v.site v.schema := fun h =>
      hfollows.away ((h token hfollows.reference).2 target hfollows.lookup)
    simp [Visit.found, Visit.outlook_of_follows hfollows, hclosed]
  · simp only [Visit.found, Visit.outlook_of_opens hopens, List.mem_flatMap,
      Visit.mem_throughFacets, hopens, true_and]
    constructor
    · rintro ⟨way, ⟨node, hnode, ⟨exit, schema⟩, hexit, rfl⟩, hp⟩
      cases exit with
      | property key =>
        obtain ⟨hkey, rfl⟩ := required_mem_propertyFindings.1 hp
        exact ⟨node, hnode, key, schema, hexit, hkey, rfl⟩
      | items => exact absurd hp required_notMem_valueFindings
      | _ => simp [Visit.wayOut, Exit.found] at hp
    · rintro ⟨node, hnode, key, schema, hexit, hkey, rfl⟩
      exact ⟨_, ⟨node, hnode, (.property key, schema), hexit, rfl⟩,
        required_mem_propertyFindings.2 ⟨hkey, rfl⟩⟩

/-- **A path is listed as required exactly if a branch within the depth limit ends at a node with
such a property, and the node requires the property itself or a node of the branch does.** -/
theorem mem_required_walk_iff (d : Document) (maxDepth : Nat) (o : Origin d) (base p : String) :
    p ∈ (FieldTable.empty.walk d maxDepth o base).required ↔
      ∃ trail last node schemas key,
        Branch d o trail last ∧ trail.length ≤ maxDepth
          ∧ d.Opens trail.references (trail.site o.site) last ∧ Node.of? last = some node
          ∧ node.get? "properties" = some (.object schemas) ∧ key ∈ schemas.map Prod.fst
          ∧ p = FieldPath.join (trail.path base) key
          ∧ (node.Lists key ∨ trail.Requires key) := by
  have hfinding : p ∈ (FieldTable.empty.walk d maxDepth o base).required ↔
      Finding.required p ∈ walkFindings d maxDepth o base := by
    simp [FieldTable.walk, FieldTable.mem_required_recordAll, FieldTable.empty]
  rw [hfinding, walkFindings, mem_findings_iff]
  constructor
  · rintro (⟨n, v, hn, hv, hp⟩ | ⟨v, -, hp⟩)
    · obtain ⟨trail, last, hbranch, rfl, rfl⟩ := reaches_start_iff.1 hv
      obtain ⟨hopens, node, hnode, key, below, hexit, hkey, rfl⟩ := required_mem_found.1 hp
      obtain ⟨schemas, hschemas, hmem⟩ := exists_property_mem_exits.1 ⟨below, hexit⟩
      refine ⟨trail, last, node, schemas, key, hbranch, by omega, hopens, hnode, hschemas, hmem,
        rfl, ?_⟩
      rw [← Trail.mem_inherited_iff, ← Node.mem_required_iff, or_comm]
      exact List.mem_append.1 hkey
    · simp at hp
  · rintro ⟨trail, last, node, schemas, key, hbranch, hlength, hopens, hnode, hschemas, hmem, rfl,
      hkey⟩
    obtain ⟨below, hexit⟩ := exists_property_mem_exits.2 ⟨schemas, hschemas, hmem⟩
    rw [← Trail.mem_inherited_iff, ← Node.mem_required_iff, or_comm] at hkey
    refine Or.inl ⟨trail.length, trail.visit o.site base last, by omega, hbranch.reaches, ?_⟩
    exact required_mem_found.2
      ⟨hopens, node, hnode, key, below, hexit, List.mem_append.2 hkey, rfl⟩

/-! A parcel that goes to an address.  Its own names count for its properties, below its `allOf`,
and for the properties of the address, but not for its labels and not below its `oneOf`. -/

def addressSchema : Json := .object
  [("required", .array [.string "street", .null]),
    ("properties", .object [("street", .object []), ("note", .object []), ("door", .object [])])]

def parcels : Document := .ofSchemas [("Address", addressSchema)]

def parcelNode : Node := ⟨
  [("type", .string "array"), ("required", .array [.string "to", .string "note"]),
    ("properties", .object [("to", schemaReference "Address")]),
    ("items", .object [("properties", .object [("note", .object [])])]),
    ("allOf", .array [.object [("properties", .object [("note", .object [])])]]),
    ("oneOf", .array [.object [("properties", .object [("to", .object []), ("by", .object [])])]])]⟩

def parcel : Origin parcels := .value (.object parcelNode.members)

/-- The branch from the parcel to the schema of the address. -/
def addressTrail : Trail := [.hop "Address", .through parcelNode (.property "to")]

lemma branch_address : Branch parcels parcel addressTrail addressSchema := by
  have hopens : parcels.Opens [] .elsewhere parcel.schema := by rintro token ⟨⟩
  have hto : parcelNode.Has (schemaReference "Address") (.property "to") :=
    ⟨_, rfl, List.mem_cons_self⟩
  exact (Branch.root.through hopens rfl hto).hop ⟨rfl, List.not_mem_nil, rfl, nofun⟩

theorem mem_required_walk_parcel :
    (FieldTable.empty.walk parcels 8 parcel "parcel").required
        = ["parcel.to", "parcel.to.street", "parcel.to.note", "parcel.note"]
      ∧ Branch parcels parcel addressTrail addressSchema ∧ addressTrail.Requires "note"
      ∧ "parcel.to.note" ∈ (FieldTable.empty.walk parcels 8 parcel "parcel").required := by
  have hrequires : addressTrail.Requires "note" :=
    ⟨parcelNode, .property "to", by simp [addressTrail], rfl, _, rfl, by decide⟩
  have hopens : parcels.Opens ["Address"] (.component "Address") addressSchema := by
    rintro token ⟨⟩
  refine ⟨rfl, branch_address, hrequires, ?_⟩
  exact (mem_required_walk_iff parcels 8 parcel "parcel" _).2
    ⟨addressTrail, addressSchema, _, _, "note", branch_address, by decide, hopens, rfl, rfl,
      by decide, rfl, Or.inr hrequires⟩

end ApiSurvey.Schema
