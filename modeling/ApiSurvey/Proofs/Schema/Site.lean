import ApiSurvey.Proofs.Schema.Reach
import Mathlib.Data.List.Basic

/-!
# The site of a schema

A reference that leads a schema to itself is not followed.  So a component that refers to itself is
opened by a walk that begins at it, and a schema equal to it is not: there the reference leads away,
to the component.  In no other case does the site of a schema make a difference to a walk.

A walk that does not begin in this way comes to components through references only.
-/

namespace ApiSurvey.Schema

variable {d d' : Document} {schema next : Json}

/-! ## Sites and exits -/

@[simp] lemma Exit.site_elsewhere (exit : Exit) : exit.site .elsewhere = .elsewhere := by
  cases exit <;> rfl

@[simp] lemma Exit.site_component (exit : Exit) (name : String) :
    exit.site (.component name) = .elsewhere := by
  cases exit <;> rfl

/-- What stands at a site has the schemas below it at their sites. -/
lemma Document.Stands.of_exits {site : Site} {node : Node} {exit : Exit} (h : d.Stands site schema)
    (hnode : Node.of? schema = some node) (hexit : (exit, next) ∈ node.exits) :
    d.Stands (exit.site site) next := by
  obtain rfl := Node.of?_eq_some_iff.1 hnode
  cases exit with
  | items =>
    cases site with
    | schemas =>
      -- the items of the section are the component of that name
      obtain ⟨components, hcomponents, hschemas⟩ := Option.bind_eq_some_iff.1 h
      have hitems : node.members.lookup "items" = some next := (Node.mem_exits_iff.1 hexit).2
      show d.component? schemasSection "items" = some next
      rw [component?, hcomponents]
      show (components.get? schemasSection).bind (·.get? "items") = some next
      rw [hschemas]
      exact hitems
    | _ => trivial
  | _ => trivial

/-! ## Components that refer to themselves -/

namespace Site

/-- The schema at a site is a component that refers to itself, or a walk comes from it to such a
component without following a reference. -/
inductive Loops : Site → Json → Prop
  | here {schema : Json} {token : String} (href : reference? schemasSection schema = some token) :
      Loops (.component (componentName token)) schema
  | items {site : Site} {schema next : Json} {node : Node} (hnode : Node.of? schema = some node)
      (hexit : (.items, next) ∈ node.exits) (h : Loops site.items next) : Loops site schema

lemma not_loops_elsewhere (schema : Json) : ¬ Loops .elsewhere schema := by
  intro h
  generalize hsite : Site.elsewhere = site at h
  induction h with
  | here => cases hsite
  | items _ _ _ ih =>
    subst hsite
    exact ih rfl

lemma Loops.of_exits {site : Site} {node : Node} {exit : Exit} (hnode : Node.of? schema = some node)
    (hexit : (exit, next) ∈ node.exits) (h : (exit.site site).Loops next) : site.Loops schema := by
  cases exit with
  | items => exact .items hnode hexit h
  | _ => exact absurd h (not_loops_elsewhere next)

/-- A component loops just if it refers to itself. -/
lemma loops_component_iff {name : String} : (component name).Loops schema
    ↔ ∃ token, reference? schemasSection schema = some token ∧ componentName token = name := by
  constructor
  · intro h
    cases h with
    | here href => exact ⟨_, href, rfl⟩
    | items _ _ h => exact absurd h (not_loops_elsewhere _)
  · rintro ⟨token, href, rfl⟩
    exact .here href

end Site

/-- A walk that begins here comes to a component that refers to itself before it follows a
reference.  No schema that is none of the components loops, not even one that is equal to such a
component. -/
def Origin.Loops (o : Origin d) : Prop :=
  o.site.Loops o.schema

lemma Origin.not_loops_value (schema : Json) : ¬ (Origin.value schema : Origin d).Loops :=
  Site.not_loops_elsewhere schema

/-- **The site of a schema makes no difference** unless a component that refers to itself is opened
there. -/
lemma findings_elsewhere {v : Visit} (limit levels : Nat) (h : ¬ v.site.Loops v.schema) :
    findings d limit levels { v with site := .elsewhere } = findings d limit levels v := by
  induction levels generalizing v with
  | zero => rfl
  | succ levels ih =>
    rcases Visit.cut_or_follows_or_opens d v with
      ⟨token, href, hactive⟩ | ⟨token, target, hfollows⟩ | hopens
    · rw [findings_of_cut href hactive,
        findings_of_cut (v := { v with site := .elsewhere }) href hactive]
    · have hfollows' : d.Follows v.active .elsewhere v.schema token target :=
        { hfollows with away := nofun }
      rw [findings_of_follows hfollows,
        findings_of_follows (v := { v with site := .elsewhere }) hfollows']
      rfl
    · have hopens' : d.Opens v.active .elsewhere v.schema := by
        intro token href
        refine ⟨(hopens token href).1, fun target hlookup => absurd (Site.Loops.here href) ?_⟩
        rwa [← (hopens token href).2 target hlookup]
      cases hnode : Node.of? v.schema with
      | none =>
        rw [findings_of_no_node hopens hnode,
          findings_of_no_node (v := { v with site := .elsewhere }) hopens' hnode]
      | some node =>
        rw [findings_of_opens hopens hnode,
          findings_of_opens (v := { v with site := .elsewhere }) hopens' hnode]
        refine List.flatMap_congr fun ⟨exit, next⟩ hexit => ?_
        have hfound : exit.found d { v with site := .elsewhere } node next
            = exit.found d v node next := by
          cases exit <;> rfl
        have hnext := ih (v := (v.wayOut d node (exit, next)).next) (mt (.of_exits hnode hexit) h)
        have hbelow : (Visit.wayOut d { v with site := .elsewhere } node (exit, next)).next
            = { (v.wayOut d node (exit, next)).next with site := .elsewhere } := by
          simp [Visit.wayOut, Visit.below]
        rw [hfound, hbelow, hnext]

namespace Origin

variable {o : Origin d} {o' : Origin d'}

end Origin

/-- A walk from a schema is that from any equal one, unless the schema loops. -/
lemma FieldTable.walk_value {o : Origin d} (h : ¬ o.Loops) (t : FieldTable) (maxDepth : Nat)
    (path : String) : t.walk d maxDepth (.value o.schema) path = t.walk d maxDepth o path :=
  congrArg t.recordAll (findings_elsewhere (v := .start o path) maxDepth (maxDepth + 1) h)

/-! ## Components reached by references -/

/-- If a visit stands at a component that refers to itself, then it does so after a reference to
that component, which is still being expanded. -/
def Visit.Led (v : Visit) : Prop :=
  (∃ token ∈ v.active, v.site = .component (componentName token)) ∨ ¬ v.site.Loops v.schema

namespace Visit.Led

variable {v u : Visit} {n : Nat} {token : String}

lemma start {o : Origin d} (h : ¬ o.Loops) (path : String) : (Visit.start o path).Led :=
  Or.inr h

lemma hop (v : Visit) (token : String) (target : Json) : (v.hop token target).Led :=
  Or.inl ⟨token, List.mem_cons_self, rfl⟩

lemma wayOut {node : Node} {out : Exit × Json} (h : v.Led) (hnode : Node.of? v.schema = some node)
    (hout : out ∈ node.exits) : (v.wayOut d node out).next.Led := by
  refine Or.inr ?_
  rcases h with ⟨token, -, hsite⟩ | h
  · have helsewhere : (v.wayOut d node out).next.site = .elsewhere := by
      simp [Visit.wayOut, Visit.below, hsite]
    rw [helsewhere]
    exact Site.not_loops_elsewhere _
  · exact mt (.of_exits hnode hout) h

lemma of_reaches (h : v.Led) (hu : Reaches d v n u) : u.Led := by
  induction hu using Reaches.step_induction_on with
  | refl => exact h
  | @hop _ u token target => exact hop u token target
  | wayOut _ _ hnode hout ih => exact ih.wayOut hnode hout

/-- The component that refers to itself is one of those being expanded. -/
lemma mem_expanded (h : v.Led) (href : reference? schemasSection v.schema = some token)
    (hsite : v.site = .component (componentName token)) :
    componentName token ∈ v.active.map componentName := by
  rcases h with ⟨other, hother, hsame⟩ | h
  · have hname : componentName other = componentName token :=
      Site.component.inj (hsame.symm.trans hsite)
    exact hname ▸ List.mem_map_of_mem hother
  · rw [hsite] at h
    exact absurd (.here href) h

end Visit.Led

end ApiSurvey.Schema
