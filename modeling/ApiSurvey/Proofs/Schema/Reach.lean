import ApiSurvey.Schema.Walk
import Mathlib.Tactic.Common

/-!
# The places that a walk reaches

A visit does one of three things: it is cut at a reference that is being expanded already, it
follows a reference to a component, or it opens the node at its schema and leaves it through each
of its facets.  Which of the three, and with what findings, is said here once; the findings of a
walk are those at the places that it reaches within its levels, and one truncation for each place
that it reaches when no level is left.
-/

namespace ApiSurvey.Schema

/-! ## The ways out of a node -/

/-- How a walk leaves a node for a schema below it. -/
inductive Exit
  | property (key : String)
  | items
  | allOf
  | oneOf
  | anyOf
deriving DecidableEq, Repr

/-- The schemas that a facet leads to. -/
def Facet.exits : Facet → List (Exit × Json)
  | .properties schemas => schemas.map fun entry => (.property entry.1, entry.2)
  | .items schema => [(.items, schema)]
  | .allOf branches => branches.map fun schema => (.allOf, schema)
  | .oneOf branches => branches.map fun schema => (.oneOf, schema)
  | .anyOf branches => branches.map fun schema => (.anyOf, schema)

/-- The schemas directly below a node, in the order in which they are walked. -/
def Node.exits (n : Node) : List (Exit × Json) :=
  n.facets.flatMap Facet.exits

namespace Node

variable {n : Node} {key name : String}

lemma list?_eq_some_iff {items : List Json} :
    n.list? key = some items ↔ n.get? key = some (.array items) := by
  simp [list?, Option.bind_eq_some_iff, Json.items?_eq_some_iff]

/-- A node has a name written under `required`. -/
def Lists (n : Node) (name : String) : Prop :=
  ∃ entries, n.get? "required" = some (.array entries) ∧ .string name ∈ entries

lemma mem_required_iff : name ∈ n.required ↔ n.Lists name := by
  simp only [required, List.mem_filterMap, Json.string?_eq_some_iff, exists_eq_right, Lists,
    ← list?_eq_some_iff]
  cases n.list? "required" <;> simp

/-- A node has a schema written where a walk leaves it by an exit. -/
def Has (n : Node) (schema : Json) : Exit → Prop
  | .property key => ∃ schemas, n.get? "properties" = some (.object schemas)
      ∧ (key, schema) ∈ schemas
  | .items => (n.get? "type" = some (.string "array")
        ∨ ∃ types, n.get? "type" = some (.array types) ∧ .string "array" ∈ types)
      ∧ n.get? "items" = some schema
  | .allOf => ∃ branches, n.get? "allOf" = some (.array branches) ∧ schema ∈ branches
  | .oneOf => ∃ branches, n.get? "oneOf" = some (.array branches) ∧ schema ∈ branches
  | .anyOf => ∃ branches, n.get? "anyOf" = some (.array branches) ∧ schema ∈ branches

lemma isArray_iff : n.isArray = true ↔ n.get? "type" = some (.string "array")
    ∨ ∃ types, n.get? "type" = some (.array types) ∧ .string "array" ∈ types := by
  rw [isArray]
  cases n.get? "type" with
  | none => simp
  | some type => cases type <;> simp [Json.string?_eq_some_iff]

/-- The schemas below a node are those that it has written. -/
lemma mem_exits_iff {exit : Exit} {next : Json} : (exit, next) ∈ n.exits ↔ n.Has next exit := by
  cases exit <;> simp [exits, facets, Facet.exits, Option.bind_eq_some_iff,
    Json.members?_eq_some_iff, Has, isArray_iff, list?_eq_some_iff]

end Node

namespace Exit

/-- The path below an exit from a node at a path. -/
def path (base : String) : Exit → String
  | property key => FieldPath.join base key
  | items => FieldPath.elements base
  | allOf | oneOf | anyOf => base

/-- Whether what the node itself requires counts below the exit. -/
def passesOwn : Exit → Bool
  | property _ | allOf => true
  | items | oneOf | anyOf => false

/-- The site below an exit from a node at a site. -/
def site (above : Site) : Exit → Site
  | items => above.items
  | property _ | allOf | oneOf | anyOf => .elsewhere

/-- The names required below an exit from a node that inherits the names `above`. -/
def inherited (n : Node) (above : List String) (e : Exit) : List String :=
  if e.passesOwn then above ++ n.required else above

/-- What is found on the way out of a node. -/
def found (d : Document) (v : Visit) (n : Node) (schema : Json) : Exit → List Finding
  | property key =>
    propertyFindings d (v.inherited ++ n.required) (FieldPath.join v.path key) key schema
  | items => valueFindings (FieldPath.elements v.path) n
  | allOf | oneOf | anyOf => []

end Exit

namespace Visit

/-- The way out of the node at a visit to a schema below it. -/
def wayOut (d : Document) (v : Visit) (n : Node) (out : Exit × Json) : Edge :=
  ⟨out.1.found d v n out.2,
    v.below out.2 (out.1.site v.site) (out.1.path v.path) (out.1.inherited n v.inherited)⟩

lemma throughFacet_eq (d : Document) (v : Visit) (n : Node) (facet : Facet) :
    v.throughFacet d n facet = facet.exits.map (v.wayOut d n) := by
  cases facet <;>
    simp [throughFacet, Facet.exits, wayOut, Exit.found, Exit.site, Exit.path, Exit.inherited,
      Exit.passesOwn, Function.comp_def]

lemma throughFacets_of_node {d : Document} {v : Visit} {n : Node}
    (hn : Node.of? v.schema = some n) : v.throughFacets d = n.exits.map (v.wayOut d n) := by
  have hfacet : v.throughFacet d n = fun facet => facet.exits.map (v.wayOut d n) :=
    funext (throughFacet_eq d v n)
  simp only [throughFacets, hn, hfacet, Node.exits, List.map_flatMap]

lemma throughFacets_of_no_node {d : Document} {v : Visit} (hn : Node.of? v.schema = none) :
    v.throughFacets d = [] := by
  simp only [throughFacets, hn]

lemma mem_throughFacets {d : Document} {v : Visit} {way : Edge} :
    way ∈ v.throughFacets d ↔
      ∃ n, Node.of? v.schema = some n ∧ ∃ out ∈ n.exits, v.wayOut d n out = way := by
  cases hn : Node.of? v.schema with
  | none => simp [throughFacets_of_no_node hn]
  | some n => simp [throughFacets_of_node hn]

/-- The visit of the component that a reference leads to. -/
def hop (v : Visit) (token : String) (target : Json) : Visit :=
  ⟨target, .component (componentName token), v.path, v.inherited, token :: v.active⟩

end Visit

/-! ## What a visit does -/

namespace Document

/-- The reference at a schema is followed: it is not being expanded, and it leads to a component
other than the one that the schema itself is. -/
structure Follows (d : Document) (active : List String) (site : Site) (schema : Json)
    (token : String) (target : Json) : Prop where
  reference : reference? schemasSection schema = some token
  fresh : token ∉ active
  lookup : d.lookup? schemasSection token = some target
  away : site ≠ .component (componentName token)

/-- The node at a schema is opened: the schema is no reference, or one that leads nowhere or to the
schema itself. -/
def Opens (d : Document) (active : List String) (site : Site) (schema : Json) : Prop :=
  ∀ token, reference? schemasSection schema = some token → token ∉ active ∧
    ∀ target, d.lookup? schemasSection token = some target → site = .component (componentName token)

end Document

namespace Visit

variable {d : Document} {v : Visit}

lemma outlook_of_cut {token : String} (href : reference? schemasSection v.schema = some token)
    (hactive : token ∈ v.active) : v.outlook d = .cut token := by
  simp [outlook, href, hactive]

lemma outlook_of_follows {token : String} {target : Json}
    (h : d.Follows v.active v.site v.schema token target) :
    v.outlook d = .edges [⟨[], v.hop token target⟩] := by
  simp [outlook, expand?, hop, h.reference, h.fresh, h.lookup, h.away]

lemma outlook_of_opens (h : d.Opens v.active v.site v.schema) :
    v.outlook d = .edges (v.throughFacets d) := by
  cases href : reference? schemasSection v.schema with
  | none => simp [outlook, href]
  | some token =>
    obtain ⟨hfresh, hsite⟩ := h token href
    cases hlookup : d.lookup? schemasSection token with
    | none => simp [outlook, expand?, href, hfresh, hlookup]
    | some target => simp [outlook, expand?, href, hfresh, hlookup, hsite target hlookup]

/-- A visit is cut, follows its reference, or opens its node. -/
lemma cut_or_follows_or_opens (d : Document) (v : Visit) :
    (∃ token, reference? schemasSection v.schema = some token ∧ token ∈ v.active)
      ∨ (∃ token target, d.Follows v.active v.site v.schema token target)
      ∨ d.Opens v.active v.site v.schema := by
  by_cases hcut : ∃ token, reference? schemasSection v.schema = some token ∧ token ∈ v.active
  · exact Or.inl hcut
  · by_cases hfollows : ∃ token target, d.Follows v.active v.site v.schema token target
    · exact Or.inr (Or.inl hfollows)
    · refine Or.inr (Or.inr fun token href => ?_)
      have hfresh : token ∉ v.active := fun h => hcut ⟨token, href, h⟩
      refine ⟨hfresh, fun target hlookup => ?_⟩
      by_contra haway
      exact hfollows ⟨token, target, href, hfresh, hlookup, haway⟩

/-- Only a reference that is being expanded is cut. -/
lemma outlook_eq_cut_iff {token : String} : v.outlook d = .cut token ↔
    reference? schemasSection v.schema = some token ∧ token ∈ v.active := by
  constructor
  · intro h
    rcases cut_or_follows_or_opens d v with
      ⟨other, href, hactive⟩ | ⟨other, target, hfollows⟩ | hopens
    · rw [outlook_of_cut href hactive] at h
      obtain rfl := Outlook.cut.inj h
      exact ⟨href, hactive⟩
    · rw [outlook_of_follows hfollows] at h
      cases h
    · rw [outlook_of_opens hopens] at h
      cases h
  · rintro ⟨href, hactive⟩
    exact outlook_of_cut href hactive

/-- Each way on follows a reference or leaves the node of a schema. -/
lemma follows_or_opens_of_mem {ways : List Edge} {way : Edge} (hways : v.outlook d = .edges ways)
    (hway : way ∈ ways) :
    (∃ token target, d.Follows v.active v.site v.schema token target
        ∧ way = ⟨[], v.hop token target⟩)
      ∨ (d.Opens v.active v.site v.schema ∧ ∃ node, Node.of? v.schema = some node
        ∧ ∃ out ∈ node.exits, way = v.wayOut d node out) := by
  rcases cut_or_follows_or_opens d v with
    ⟨token, href, hactive⟩ | ⟨token, target, hfollows⟩ | hopens
  · simp [outlook_of_cut href hactive] at hways
  · rw [outlook_of_follows hfollows] at hways
    obtain rfl := Outlook.edges.inj hways
    exact Or.inl ⟨token, target, hfollows, List.mem_singleton.1 hway⟩
  · rw [outlook_of_opens hopens] at hways
    obtain rfl := Outlook.edges.inj hways
    obtain ⟨node, hnode, out, hout, rfl⟩ := mem_throughFacets.1 hway
    exact Or.inr ⟨hopens, node, hnode, out, hout, rfl⟩

/-- What is found at a visit itself, on its ways to the next ones. -/
def found (d : Document) (v : Visit) : List Finding :=
  match v.outlook d with
  | .cut reference => [.truncated ⟨v.path, .cycle reference⟩]
  | .edges ways => ways.flatMap Edge.found

end Visit

section

variable {d : Document} {v : Visit} {limit levels : Nat}

lemma findings_of_cut {token : String} (href : reference? schemasSection v.schema = some token)
    (hactive : token ∈ v.active) :
    findings d limit (levels + 1) v = [.truncated ⟨v.path, .cycle token⟩] := by
  rw [findings, Visit.outlook_of_cut href hactive]

lemma findings_of_follows {token : String} {target : Json}
    (h : d.Follows v.active v.site v.schema token target) :
    findings d limit (levels + 1) v = findings d limit levels (v.hop token target) := by
  rw [findings, Visit.outlook_of_follows h]
  simp

lemma findings_of_opens {n : Node} (h : d.Opens v.active v.site v.schema)
    (hn : Node.of? v.schema = some n) :
    findings d limit (levels + 1) v = n.exits.flatMap fun out =>
      out.1.found d v n out.2 ++ findings d limit levels (v.wayOut d n out).next := by
  rw [findings, Visit.outlook_of_opens h, Visit.throughFacets_of_node hn]
  exact List.flatMap_map ..

lemma findings_of_no_node (h : d.Opens v.active v.site v.schema)
    (hn : Node.of? v.schema = none) : findings d limit (levels + 1) v = [] := by
  rw [findings, Visit.outlook_of_opens h, Visit.throughFacets_of_no_node hn]
  rfl

end

/-! ## Places within reach -/

/-- A walk comes from one visit to another over so many edges. -/
inductive Reaches (d : Document) (v : Visit) : Nat → Visit → Prop
  | refl : Reaches d v 0 v
  | step {n : Nat} {u : Visit} {ways : List Edge} {way : Edge} (h : Reaches d v n u)
      (hways : u.outlook d = .edges ways) (hway : way ∈ ways) : Reaches d v (n + 1) way.next

section

variable {d : Document} {v u : Visit} {n : Nat}

lemma Reaches.head {ways : List Edge} {way : Edge} (hways : v.outlook d = .edges ways)
    (hway : way ∈ ways) (h : Reaches d way.next n u) : Reaches d v (n + 1) u := by
  induction h with
  | refl => exact .step .refl hways hway
  | step _ hways' hway' ih => exact .step ih hways' hway'

lemma Reaches.trans {m : Nat} {w : Visit} (h : Reaches d v n u) (h' : Reaches d u m w) :
    Reaches d v (n + m) w := by
  induction h' with
  | refl => exact h
  | step _ hways hway ih => exact .step ih hways hway

/-- A walk goes on over a reference. -/
lemma Reaches.hop {token : String} {target : Json} (h : Reaches d v n u)
    (hfollows : d.Follows u.active u.site u.schema token target) :
    Reaches d v (n + 1) (u.hop token target) :=
  h.step (Visit.outlook_of_follows hfollows) List.mem_cons_self

/-- A walk goes on to a schema below. -/
lemma Reaches.wayOut {node : Node} {out : Exit × Json} (h : Reaches d v n u)
    (hopens : d.Opens u.active u.site u.schema) (hnode : Node.of? u.schema = some node)
    (hout : out ∈ node.exits) : Reaches d v (n + 1) (u.wayOut d node out).next :=
  h.step (Visit.outlook_of_opens hopens) (Visit.mem_throughFacets.2 ⟨node, hnode, out, hout, rfl⟩)

/-- A walk follows references and leaves nodes for the schemas below them. -/
@[elab_as_elim]
lemma Reaches.step_induction_on {motive : ∀ (u : Visit) (n : Nat), Reaches d v n u → Prop}
    (h : Reaches d v n u) (refl : motive v 0 .refl)
    (hop : ∀ {n : Nat} {u : Visit} {token : String} {target : Json} (h : Reaches d v n u)
      (hfollows : d.Follows u.active u.site u.schema token target), motive u n h →
        motive (u.hop token target) (n + 1) (h.hop hfollows))
    (wayOut : ∀ {n : Nat} {u : Visit} {node : Node} {out : Exit × Json} (h : Reaches d v n u)
      (hopens : d.Opens u.active u.site u.schema) (hnode : Node.of? u.schema = some node)
      (hout : out ∈ node.exits), motive u n h →
        motive (u.wayOut d node out).next (n + 1) (h.wayOut hopens hnode hout)) :
    motive u n h := by
  induction h with
  | refl => exact refl
  | step h hways hway ih =>
    rcases Visit.follows_or_opens_of_mem hways hway with
      ⟨token, target, hfollows, rfl⟩ | ⟨hopens, node, hnode, out, hout, rfl⟩
    · exact hop h hfollows ih
    · exact wayOut h hopens hnode hout ih

lemma reaches_zero_iff : Reaches d v 0 u ↔ u = v := by
  constructor
  · rintro ⟨⟩
    rfl
  · rintro rfl
    exact .refl

lemma reaches_succ_iff :
    Reaches d v (n + 1) u ↔
      ∃ ways, v.outlook d = .edges ways ∧ ∃ way ∈ ways, Reaches d way.next n u := by
  constructor
  · intro h
    generalize hm : n + 1 = m at h
    induction h generalizing n with
    | refl => omega
    | @step m w ways way h hways hway ih =>
      obtain rfl : n = m := by omega
      -- the first edge is that of the way to `w`, unless `w` is the visit itself
      cases n with
      | zero =>
        obtain rfl := reaches_zero_iff.1 h
        exact ⟨ways, hways, way, hway, .refl⟩
      | succ k =>
        obtain ⟨ways', hways', way', hway', h'⟩ := ih rfl
        exact ⟨ways', hways', way', hway', .step h' hways hway⟩
  · rintro ⟨ways, hways, way, hway, h⟩
    exact .head hways hway h

lemma mem_findings_succ {limit levels : Nat} {f : Finding} :
    f ∈ findings d limit (levels + 1) v ↔
      f ∈ v.found d ∨
        ∃ ways, v.outlook d = .edges ways ∧ ∃ way ∈ ways, f ∈ findings d limit levels way.next := by
  cases hout : v.outlook d with
  | cut reference => simp [findings, Visit.found, hout]
  | edges ways => simp [findings, Visit.found, hout, and_or_left, exists_or]

/-- **The findings of a walk are what is found at the places within its levels, and a truncation
for each place where no level is left.** -/
lemma mem_findings_iff {limit levels : Nat} {f : Finding} :
    f ∈ findings d limit levels v ↔
      (∃ n u, n < levels ∧ Reaches d v n u ∧ f ∈ u.found d)
        ∨ ∃ u, Reaches d v levels u ∧ f = .truncated ⟨u.path, .depth limit⟩ := by
  induction levels generalizing v with
  | zero => simp [findings, reaches_zero_iff]
  | succ levels ih =>
    rw [mem_findings_succ]
    constructor
    · rintro (hf | ⟨ways, hways, way, hway, hf⟩)
      · exact Or.inl ⟨0, v, by omega, .refl, hf⟩
      · rcases ih.1 hf with ⟨n, u, hn, hu, hf⟩ | ⟨u, hu, hf⟩
        · exact Or.inl ⟨n + 1, u, by omega, .head hways hway hu, hf⟩
        · exact Or.inr ⟨u, .head hways hway hu, hf⟩
    · rintro (⟨_ | n, u, hn, hu, hf⟩ | ⟨u, hu, hf⟩)
      · obtain rfl := reaches_zero_iff.1 hu
        exact Or.inl hf
      · obtain ⟨ways, hways, way, hway, hu⟩ := reaches_succ_iff.1 hu
        exact Or.inr ⟨ways, hways, way, hway, ih.2 (Or.inl ⟨n, u, by omega, hu, hf⟩)⟩
      · obtain ⟨ways, hways, way, hway, hu⟩ := reaches_succ_iff.1 hu
        exact Or.inr ⟨ways, hways, way, hway, ih.2 (Or.inr ⟨u, hu, hf⟩)⟩

end

end ApiSurvey.Schema
