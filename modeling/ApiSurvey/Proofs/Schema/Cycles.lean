import ApiSurvey.Proofs.Schema.Component

/-!
# Cycles of references

What a walk is expanding leads, in the graph of references, to all that is ahead of it.  So a
reference that is cut lies on a cycle; and a walk without any cut has followed every chain of
references to its end, so that none of them runs into a cycle.

One kind of cycle escapes.  A component that refers to itself is walked as if it were no reference
unless it was come to by a reference that spells its name alike: if the spelling is another one, or
if the walk begins at the component.
-/

namespace ApiSurvey.Schema

namespace Document

open Relation

variable {d : Document} {root schema : Json} {v u : Visit} {token : String} {n : Nat}

/-- A component that refers to itself does so under the name, as it is written, by which a chain of
references from the schema has come to it. -/
def PlainLoops (d : Document) (schema : Json) : Prop :=
  ∀ token other target, d.Refers schema token → d.lookup? schemasSection token = some target →
    reference? schemasSection target = some other → componentName other = componentName token →
    other = token

/-- A visit agrees with the graph, and stands where a chain of references from the root comes. -/
structure Traced (d : Document) (root : Json) (v : Visit) : Prop where
  agrees : d.Agrees v
  active : ∀ token ∈ v.active, d.Refers root token
  ahead : ∀ token, d.Mentions v.schema token → d.Refers root token
  led : v.Led

lemma traced_start {o : Origin d} (h : ¬ o.Loops) (path : String) :
    d.Traced o.schema (.start o path) where
  agrees := agrees_start o path
  active := by simp [Visit.start]
  ahead := fun _ h => h.refers
  led := .start h path

namespace Traced

/-! ## What one step keeps -/

lemma hop {target : Json} (h : d.Traced root v)
    (hfollows : d.Follows v.active v.site v.schema token target) :
    d.Traced root (v.hop token target) := by
  have hrefers : d.Refers root token :=
    h.ahead token (.root hfollows.reference hfollows.lookup)
  refine ⟨h.agrees.hop hfollows, List.forall_mem_cons.2 ⟨hrefers, h.active⟩, ?_, .hop ..⟩
  intro b hb
  obtain ⟨first, hfirst, hchain⟩ := hrefers
  exact ⟨first, hfirst, hchain.tail ⟨target, hfollows.lookup, hb⟩⟩

/-- A node that is opened is no reference to a component. -/
lemma target?_eq_none (h : d.Traced root v) (hplain : d.PlainLoops root)
    (hopens : d.Opens v.active v.site v.schema) : d.target? v.schema = none := by
  refine hopens.target?_eq_none fun other href hsite => ?_
  -- the visit stands in the component that it refers to, and has come by the same spelling
  obtain ⟨token, htoken, hname⟩ := List.mem_map.1 (h.led.mem_expanded href hsite)
  have hself : d.lookup? schemasSection token = some v.schema := by
    have hstands := h.agrees.stands
    rw [hsite] at hstands
    rw [lookup?, hname]
    exact hstands
  obtain rfl := hplain token other v.schema (h.active token htoken) hself href hname.symm
  exact htoken

lemma wayOut {node : Node} {out : Exit × Json} (h : d.Traced root v)
    (hplain : d.PlainLoops root) (hopens : d.Opens v.active v.site v.schema)
    (hnode : Node.of? v.schema = some node) (hout : out ∈ node.exits) :
    d.Traced root (v.wayOut d node out).next := by
  have hnone := h.target?_eq_none hplain hopens
  exact ⟨h.agrees.wayOut hnone hnode hout, h.active,
    fun token htoken => h.ahead token (.inside hnone hnode hout htoken), h.led.wayOut hnode hout⟩

/-! ## What a walk keeps -/

lemma of_reaches (h : d.Traced root v) (hplain : d.PlainLoops root) (hu : Reaches d v n u) :
    d.Traced root u := by
  induction hu using Reaches.step_induction_on with
  | refl => exact h
  | hop _ hfollows ih => exact ih.hop hfollows
  | wayOut _ hopens hnode hout ih => exact ih.wayOut hplain hopens hnode hout

/-- A reference that is cut lies on a cycle within reach. -/
lemma cycle_of_cut (h : d.Traced root v)
    (href : reference? schemasSection v.schema = some token) (hactive : token ∈ v.active) :
    d.Refers root token ∧ TransGen d.LeadsTo token token := by
  obtain ⟨target, hlookup⟩ := h.agrees.lookup token hactive
  exact ⟨h.active token hactive, h.agrees.ahead token hactive token (.root href hlookup)⟩

end Traced

/-! ## A walk without a cut -/

lemma Settles.succ (h : d.Settles n schema) : d.Settles (n + 1) schema := by
  induction n generalizing schema with
  | zero => exact fun token _ htoken _ => absurd htoken (h token)
  | succ n ih => exact fun token target htoken hlookup => ih (h token target htoken hlookup)

/-- Chains of references are bounded at a node if they are below it. -/
lemma settles_of_exits {node : Node} (hnone : d.target? schema = none)
    (hnode : Node.of? schema = some node) (h : ∀ out ∈ node.exits, d.Settles n out.2) :
    d.Settles (n + 1) schema := by
  intro token target htoken hlookup
  obtain ⟨out, hout, hmentions⟩ := htoken.exits hnone hnode
  exact (h out hout).succ token target hmentions hlookup

/-- **A walk that notes no truncation has followed every chain of references to its end**, and
none of them is longer than the walk is deep. -/
lemma settles_of_no_truncation {limit levels : Nat} (h : d.Traced root v)
    (hplain : d.PlainLoops root)
    (hnone : ∀ x, Finding.truncated x ∉ findings d limit levels v) :
    d.Settles levels v.schema := by
  induction levels generalizing v with
  | zero => exact absurd (List.mem_singleton.2 rfl) (hnone ⟨v.path, .depth limit⟩)
  | succ levels ih =>
    rcases Visit.cut_or_follows_or_opens d v with
      ⟨token, href, hactive⟩ | ⟨token, target, hfollows⟩ | hopens
    · -- a reference that is cut is noted
      refine absurd ?_ (hnone ⟨v.path, .cycle token⟩)
      exact mem_findings_succ.2 (Or.inl (truncated_mem_found.2 ⟨token, href, hactive, rfl⟩))
    · rw [findings_of_follows hfollows] at hnone
      have hsettles : d.Settles levels target := ih (h.hop hfollows) hnone
      -- the schema mentions nothing but the reference that it is
      intro b target' hb hlookup
      have href := hb.reference (target?_eq_some_iff.2 ⟨token, hfollows.reference, hfollows.lookup⟩)
      obtain rfl := Option.some.inj (hfollows.reference.symm.trans href)
      obtain rfl := Option.some.inj (hfollows.lookup.symm.trans hlookup)
      exact hsettles
    · -- a reference that is neither cut nor followed leads to no component
      have htarget := h.target?_eq_none hplain hopens
      cases hnode : Node.of? v.schema with
      | none =>
        intro b target' hb
        cases hb with
        | root href hlookup => exact absurd htarget (target?_ne_none href hlookup)
        | inside _ hnode' => rw [hnode] at hnode'; cases hnode'
      | some node =>
        refine settles_of_exits htarget hnode fun out hout => ?_
        refine ih (h.wayOut hplain hopens hnode hout) fun x hx => hnone x ?_
        rw [findings_of_opens hopens hnode]
        exact List.mem_flatMap.2 ⟨out, hout, List.mem_append_right _ hx⟩

/-! ## Cycles and truncations -/

lemma cycle_of_mem_truncated {maxDepth : Nat} {o : Origin d} {path : String} {x : Truncation}
    (hloops : ¬ o.Loops) (hplain : d.PlainLoops o.schema)
    (hdepth : (FieldTable.empty.walk d maxDepth o path).DepthFree)
    (hx : x ∈ (FieldTable.empty.walk d maxDepth o path).truncated) :
    ∃ token, x.reason = .cycle token ∧ d.Refers o.schema token
      ∧ TransGen d.LeadsTo token token := by
  rcases mem_findings_iff.1 (mem_truncated_walk_iff.1 hx) with ⟨n, u, -, hu, hfound⟩ | ⟨u, -, heq⟩
  · obtain ⟨token, href, hactive, rfl⟩ := truncated_mem_found.1 hfound
    have htraced := (traced_start hloops path).of_reaches hplain hu
    exact ⟨token, rfl, htraced.cycle_of_cut href hactive⟩
  · obtain rfl := Finding.truncated.inj heq
    exact absurd rfl (hdepth _ hx maxDepth)

/-- **A walk that leaves nothing for its depth is truncated just if a cycle of references is within
reach, and only at references of such cycles**, provided that the walk does not begin at a component
that refers to itself, and that no component refers to itself under another spelling than the one
that leads to it. -/
theorem truncated_walk_ne_nil_iff (d : Document) (maxDepth : Nat) (o : Origin d) (path : String)
    (hloops : ¬ o.Loops) (hplain : d.PlainLoops o.schema)
    (hdepth : (FieldTable.empty.walk d maxDepth o path).DepthFree) :
    ((FieldTable.empty.walk d maxDepth o path).truncated ≠ []
        ↔ ∃ token, d.Refers o.schema token ∧ TransGen d.LeadsTo token token)
      ∧ ∀ x ∈ (FieldTable.empty.walk d maxDepth o path).truncated,
        ∃ token, x.reason = .cycle token ∧ d.Refers o.schema token
          ∧ TransGen d.LeadsTo token token := by
  refine ⟨⟨fun hne => ?_, ?_⟩, fun x hx => cycle_of_mem_truncated hloops hplain hdepth hx⟩
  · obtain ⟨x, hx⟩ := List.exists_mem_of_ne_nil _ hne
    obtain ⟨token, -, hrefers, hround⟩ := cycle_of_mem_truncated hloops hplain hdepth hx
    exact ⟨token, hrefers, hround⟩
  · rintro ⟨token, hrefers, hround⟩ hnil
    have hnone : ∀ x, Finding.truncated x ∉ walkFindings d maxDepth o path := by
      intro x hx
      have hmem := mem_truncated_walk_iff.2 hx
      rw [hnil] at hmem
      cases hmem
    have hsettles : d.Settles (maxDepth + 1) o.schema :=
      settles_of_no_truncation (traced_start hloops path) hplain hnone
    exact hsettles.acyclic token hrefers hround

/-! A tree of categories, where a component leads back to itself. -/

def categorySchema : Json := .object
  [("properties", .object [("name", .object [("type", .string "string")]),
    ("parent", schemaReference "Category")])]

def categories : Document := .ofSchemas [("Category", categorySchema)]

lemma plainLoops_categories (schema : Json) : categories.PlainLoops schema := by
  intro token other target _ hlookup href
  have hname : categories.component? schemasSection (componentName token) = some target := hlookup
  rw [categories, component?_ofSchemas, Json.lookup_cons] at hname
  split at hname
  · obtain rfl := Option.some.inj hname
    cases href
  · cases hname

/-- The component as a walk begins at it. -/
def category : Origin categories := .component "Category" categorySchema rfl

lemma not_loops_category : ¬ category.Loops := by
  intro h
  obtain ⟨token, href, -⟩ := Site.loops_component_iff.1 h
  cases href

lemma depthFree_categories : (FieldTable.empty.walk categories 8 category "").DepthFree := by
  intro x hx limit hreason
  have hone : (FieldTable.empty.walk categories 8 category "").truncated
      = [⟨"parent.parent", .cycle "Category"⟩] := rfl
  rw [hone] at hx
  obtain rfl := List.mem_singleton.1 hx
  cases hreason

theorem truncated_walk_categories :
    (FieldTable.empty.walk categories 8 category "").truncated
        = [⟨"parent.parent", .cycle "Category"⟩]
      ∧ ∃ token, categories.Refers categorySchema token
        ∧ TransGen categories.LeadsTo token token := by
  refine ⟨rfl, (truncated_walk_ne_nil_iff categories 8 category "" not_loops_category
    (plainLoops_categories _) depthFree_categories).1.1 ?_⟩
  decide

/-- A component that refers to itself, where its name is spelled with an escape. -/
def tildeLoop : Document := .ofSchemas [("a~b", schemaReference "a~b")]

/-- A reference to the component without the escape. -/
def tildeReference : Json := .object [("$ref", .string "#/components/schemas/a~b")]

/-- The walk goes once around the loop and notes nothing. -/
theorem truncated_walk_tildeLoop :
    (FieldTable.empty.walk tildeLoop defaultMaxDepth (.value tildeReference) "").truncated = []
      ∧ tildeLoop.Refers tildeReference "a~0b" ∧ TransGen tildeLoop.LeadsTo "a~0b" "a~0b" := by
  have hloop : tildeLoop.Mentions (schemaReference "a~b") "a~0b" := .root rfl rfl
  have hfirst : tildeLoop.Mentions tildeReference "a~b" := .root rfl rfl
  refine ⟨rfl, ⟨"a~b", hfirst, .single ⟨_, rfl, hloop⟩⟩, .single ⟨_, rfl, hloop⟩⟩

/-- So does a walk that begins at the component. -/
example : bodyTable tildeLoop defaultMaxDepth (.component "a~b" (schemaReference "a~b") rfl)
    = .empty := rfl

end Document

end ApiSurvey.Schema
