import ApiSurvey.Proofs.Json.Inside
import ApiSurvey.Proofs.Schema.Reach
import ApiSurvey.Proofs.Schema.Recorded

/-!
# How deep a walk goes

A walk ends without its depth limit.  Every step within a schema leads to a value inside it, and
every reference that is followed is one more of the references that the document and the schema
have written; when all of them are being expanded, the next one is cut.  A limit that is not
reached has no effect, so all larger ones give the same table.
-/

namespace ApiSurvey.Schema

/-! ## Truncations -/

section

variable {d : Document} {v : Visit} {n : Node} {x : Truncation}

lemma truncated_notMem_valueFindings {path : String} :
    Finding.truncated x ∉ valueFindings path n := by
  simp [valueFindings]

lemma truncated_notMem_exit_found {exit : Exit} {schema : Json} :
    Finding.truncated x ∉ exit.found d v n schema := by
  cases exit with
  | property key =>
    cases hn : Node.of? (d.resolve schemasSection schema) with
    | none => simp [Exit.found, propertyFindings, hn]
    | some n => simp [Exit.found, propertyFindings, hn, truncated_notMem_valueFindings]
  | items => exact truncated_notMem_valueFindings
  | _ => simp [Exit.found]

/-- All that is noted as truncated at a visit itself is a reference that is being expanded. -/
lemma truncated_mem_found :
    Finding.truncated x ∈ v.found d ↔ ∃ token, reference? schemasSection v.schema = some token
      ∧ token ∈ v.active ∧ x = ⟨v.path, .cycle token⟩ := by
  rcases Visit.cut_or_follows_or_opens d v with
    ⟨token, href, hactive⟩ | ⟨token, target, hfollows⟩ | hopens
  · simp [Visit.found, Visit.outlook_of_cut href hactive, href, hactive]
  · have hfresh : token ∉ v.active := hfollows.fresh
    simp [Visit.found, Visit.outlook_of_follows hfollows, hfollows.reference, hfresh]
  · constructor
    · simp only [Visit.found, Visit.outlook_of_opens hopens, List.mem_flatMap,
        Visit.mem_throughFacets]
      rintro ⟨way, ⟨node, -, out, -, rfl⟩, hx⟩
      exact absurd hx truncated_notMem_exit_found
    · rintro ⟨token, href, hactive, -⟩
      exact absurd hactive (hopens token href).1

end

/-! ## Walks that end -/

/-- No place is so many edges away: a walk ends within that many levels, whatever its limit. -/
def Visit.Ends (d : Document) (v : Visit) (levels : Nat) : Prop :=
  ∀ u, ¬ Reaches d v levels u

namespace Visit.Ends

variable {d : Document} {v : Visit} {levels : Nat}

lemma exists_eq_succ (h : v.Ends d levels) : ∃ m, levels = m + 1 := by
  cases levels with
  | zero => exact absurd .refl (h v)
  | succ m => exact ⟨m, rfl⟩

lemma next {ways : List Edge} {way : Edge} (h : v.Ends d (levels + 1))
    (hways : v.outlook d = .edges ways) (hway : way ∈ ways) : way.next.Ends d levels :=
  fun u hu => h u (.head hways hway hu)

lemma hop {token : String} {target : Json} (h : v.Ends d (levels + 1))
    (hfollows : d.Follows v.active v.site v.schema token target) :
    (v.hop token target).Ends d levels :=
  h.next (Visit.outlook_of_follows hfollows) List.mem_cons_self

lemma wayOut {node : Node} {out : Exit × Json} (h : v.Ends d (levels + 1))
    (hopens : d.Opens v.active v.site v.schema) (hnode : Node.of? v.schema = some node)
    (hout : out ∈ node.exits) : (v.wayOut d node out).next.Ends d levels :=
  h.next (Visit.outlook_of_opens hopens) (Visit.mem_throughFacets.2 ⟨node, hnode, out, hout, rfl⟩)

end Visit.Ends

section

variable {d : Document} {v : Visit} {levels : Nat}

/-- Nothing is left for its depth just if the walk ends within its levels. -/
lemma depth_notMem_findings_iff {limit : Nat} :
    (∀ path limit', Finding.truncated ⟨path, .depth limit'⟩ ∉ findings d limit levels v)
      ↔ v.Ends d levels := by
  constructor
  · intro h u hu
    exact h u.path limit (mem_findings_iff.2 (Or.inr ⟨u, hu, rfl⟩))
  · intro h path limit' hmem
    rcases mem_findings_iff.1 hmem with ⟨n, u, -, -, hfound⟩ | ⟨u, hu, -⟩
    · obtain ⟨token, -, -, heq⟩ := truncated_mem_found.1 hfound
      simp at heq
    · exact h u hu

lemma mem_truncated_walk_iff {maxDepth : Nat} {o : Origin d} {path : String} {x : Truncation} :
    x ∈ (FieldTable.empty.walk d maxDepth o path).truncated
      ↔ Finding.truncated x ∈ walkFindings d maxDepth o path := by
  simp [FieldTable.walk, FieldTable.mem_truncated_recordAll, FieldTable.empty]

lemma depthFree_walk_iff {maxDepth : Nat} {o : Origin d} {path : String} :
    (FieldTable.empty.walk d maxDepth o path).DepthFree
      ↔ (Visit.start o path).Ends d (maxDepth + 1) := by
  rw [FieldTable.walk, FieldTable.depthFree_recordAll_iff, walkFindings,
    depth_notMem_findings_iff]

/-- A walk that ends finds the same with more levels. -/
lemma findings_eq_of_ends {levels' : Nat} (limit limit' : Nat) (h : v.Ends d levels)
    (hle : levels ≤ levels') : findings d limit' levels' v = findings d limit levels v := by
  induction levels generalizing levels' v with
  | zero => exact absurd .refl (h v)
  | succ levels ih =>
    obtain ⟨levels', rfl⟩ : ∃ m, levels' = m + 1 := ⟨levels' - 1, by omega⟩
    rw [findings, findings]
    cases hout : v.outlook d with
    | cut reference => rfl
    | edges ways =>
      refine List.flatMap_congr fun way hway => ?_
      rw [ih (h.next hout hway) (by omega)]

/-- Two walks that end find the same if they do with the same number of levels. -/
lemma findings_eq_of_ends_of_forall {w : Visit} {levels' : Nat} (limit limit' : Nat)
    (hv : v.Ends d levels) (hw : w.Ends d levels')
    (h : ∀ n, findings d limit n w = findings d limit n v) :
    findings d limit' levels' w = findings d limit levels v := by
  rw [← findings_eq_of_ends limit limit hv (Nat.le_max_left levels levels'), ← h,
    findings_eq_of_ends limit' limit hw (Nat.le_max_right levels levels')]

end

/-! ## The values that a walk may come to -/

namespace Node

variable {n : Node} {key : String} {v : Json}

lemma mem_inside_of_get? (h : n.get? key = some v) : v ∈ (Json.object n.members).inside := by
  have hget : (Json.object n.members).get? key = some v := h
  exact Json.mem_inside_of_get? hget

lemma mem_inside_of_array {items : List Json} (h : n.get? key = some (.array items))
    (hv : v ∈ items) : v ∈ (Json.object n.members).inside :=
  Json.mem_inside_trans (Json.mem_inside_array hv) (mem_inside_of_get? h)

/-- Every way out of a node leads to a value inside it. -/
lemma mem_inside_of_exits {exit : Exit} {next : Json} (h : (exit, next) ∈ n.exits) :
    next ∈ (Json.object n.members).inside := by
  rw [mem_exits_iff] at h
  cases exit with
  | property key =>
    obtain ⟨schemas, hschemas, hnext⟩ := h
    exact Json.mem_inside_trans (Json.mem_inside_object hnext) (mem_inside_of_get? hschemas)
  | items => exact mem_inside_of_get? h.2
  | allOf | oneOf | anyOf =>
    obtain ⟨branches, hbranches, hnext⟩ := h
    exact mem_inside_of_array hbranches hnext

end Node

/-- A way out of a schema that is inside another one, or is that one, leads inside it. -/
lemma mem_cons_inside_of_exits {root schema next : Json} {node : Node} {exit : Exit}
    (h : schema ∈ root :: root.inside) (hnode : Node.of? schema = some node)
    (hexit : (exit, next) ∈ node.exits) : next ∈ root.inside := by
  obtain rfl := Node.of?_eq_some_iff.1 hnode
  rcases List.mem_cons.1 h with rfl | h
  · exact Node.mem_inside_of_exits hexit
  · exact Json.mem_inside_trans (Node.mem_inside_of_exits hexit) h

namespace Document

/-- The values that a walk from a schema may come to. -/
def scope (d : Document) (root : Json) : List Json :=
  root :: root.inside ++ d.root.inside

/-- The references that are written at these values. -/
def references (d : Document) (root : Json) : List String :=
  (d.scope root).filterMap (reference? schemasSection)

variable {d : Document} {root schema next target : Json} {token : String}

lemma mem_inside_of_component? {sectionName name : String}
    (h : d.component? sectionName name = some target) : target ∈ d.root.inside := by
  simp only [component?, Option.bind_eq_bind, Option.bind_eq_some_iff] at h
  obtain ⟨components, hcomponents, schemas, hschemas, hname⟩ := h
  exact Json.mem_inside_trans (Json.mem_inside_of_get? hname)
    (Json.mem_inside_trans (Json.mem_inside_of_get? hschemas)
      (Json.mem_inside_of_get? hcomponents))

lemma mem_scope_of_lookup? (h : d.lookup? schemasSection token = some target) :
    target ∈ d.scope root :=
  List.mem_append_right _ (mem_inside_of_component? h)

lemma mem_scope_of_exits {node : Node} {exit : Exit} (h : schema ∈ d.scope root)
    (hnode : Node.of? schema = some node) (hexit : (exit, next) ∈ node.exits) :
    next ∈ d.scope root := by
  rcases List.mem_append.1 h with h | h
  · exact List.mem_append_left _
      (List.mem_cons_of_mem _ (mem_cons_inside_of_exits h hnode hexit))
  · exact List.mem_append_right _
      (mem_cons_inside_of_exits (List.mem_cons_of_mem _ h) hnode hexit)

lemma mem_references (h : schema ∈ d.scope root)
    (href : reference? schemasSection schema = some token) : token ∈ d.references root :=
  List.mem_filterMap.2 ⟨schema, h, href⟩

end Document

/-- A walk does not depend on references being expanded that are written nowhere. -/
lemma findings_congr_active {d : Document} {root : Json} {limit levels : Nat} {v : Visit}
    {active : List String} (hscope : v.schema ∈ d.scope root)
    (hactive : ∀ token ∈ d.references root, token ∈ active ↔ token ∈ v.active) :
    findings d limit levels { v with active := active } = findings d limit levels v := by
  induction levels generalizing v active with
  | zero => rfl
  | succ levels ih =>
    -- the reference at the visit, if there is one, is written in the scope: both walks branch alike
    rcases Visit.cut_or_follows_or_opens d v with
      ⟨token, href, hmem⟩ | ⟨token, target, hfollows⟩ | hopens
    · have hmem' := (hactive token (Document.mem_references hscope href)).2 hmem
      rw [findings_of_cut href hmem]
      exact findings_of_cut (v := { v with active := active }) href hmem'
    · have hiff := hactive token (Document.mem_references hscope hfollows.reference)
      have hfollows' : d.Follows active v.site v.schema token target :=
        ⟨hfollows.reference, mt hiff.1 hfollows.fresh, hfollows.lookup, hfollows.away⟩
      rw [findings_of_follows hfollows,
        findings_of_follows (v := { v with active := active }) hfollows']
      refine ih (v := v.hop token target) (Document.mem_scope_of_lookup? hfollows.lookup) ?_
      -- both lists grow by the same reference
      intro b hb
      exact (List.mem_cons.trans (or_congr_right (hactive b hb))).trans List.mem_cons.symm
    · have hopens' : d.Opens active v.site v.schema := fun token href =>
        ⟨mt (hactive token (Document.mem_references hscope href)).1 (hopens token href).1,
          (hopens token href).2⟩
      cases hnode : Node.of? v.schema with
      | none =>
        rw [findings_of_no_node hopens hnode,
          findings_of_no_node (v := { v with active := active }) hopens' hnode]
      | some node =>
        rw [findings_of_opens hopens hnode,
          findings_of_opens (v := { v with active := active }) hopens' hnode]
        refine List.flatMap_congr fun out hout => congrArg₂ _ rfl ?_
        exact ih (v := (v.wayOut d node out).next)
          (Document.mem_scope_of_exits hscope hnode hout) hactive

/-! ## The bound -/

section

variable {d : Document} {root : Json} {v u : Visit} {n : Nat}

/-- A reference that is expanded now is no longer one of those left. -/
lemma exists_left_after {known active left : List String} {token : String}
    (hleft : ∀ b ∈ known, b ∈ active ∨ b ∈ left) (htoken : token ∈ known)
    (hfresh : token ∉ active) :
    ∃ rest : List String, left.length = rest.length + 1
      ∧ ∀ b ∈ known, b ∈ token :: active ∨ b ∈ rest := by
  have hmem : token ∈ left := (hleft token htoken).resolve_left hfresh
  have hpos : 0 < left.length := List.length_pos_of_mem hmem
  refine ⟨left.erase token, by rw [List.length_erase_of_mem hmem]; omega, fun b hb => ?_⟩
  by_cases hbt : b = token
  · exact Or.inl (List.mem_cons.2 (Or.inl hbt))
  · exact (hleft b hb).imp (List.mem_cons_of_mem _) (List.mem_erase_of_ne hbt).2

/-- A walk with some of the references left to expand: each one allows for a descent through a
component, and the schema at the visit for one more descent. -/
lemma Reaches.le_of_left {left : List String} (hscope : v.schema ∈ d.scope root)
    (hleft : ∀ token ∈ d.references root, token ∈ v.active ∨ token ∈ left)
    (h : Reaches d v n u) :
    n ≤ left.length * d.root.inside.length + v.schema.inside.length := by
  induction n generalizing v left with
  | zero => exact Nat.zero_le _
  | succ n ih =>
    obtain ⟨ways, hways, way, hway, h⟩ := reaches_succ_iff.1 h
    rcases Visit.follows_or_opens_of_mem hways hway with
      ⟨token, target, hfollows, rfl⟩ | ⟨-, node, hnode, ⟨exit, next⟩, hexit, rfl⟩
    · -- a reference less is left, and the component is smaller than the document
      obtain ⟨rest, hlength, hrest⟩ := exists_left_after hleft
        (Document.mem_references hscope hfollows.reference) hfollows.fresh
      have hbound : n ≤ rest.length * d.root.inside.length + target.inside.length :=
        ih (v := v.hop token target) (Document.mem_scope_of_lookup? hfollows.lookup) hrest h
      have hsmaller : target.inside.length < d.root.inside.length :=
        Json.length_inside_lt (Document.mem_inside_of_component? hfollows.lookup)
      rw [hlength, Nat.succ_mul]
      omega
    · -- the schema below is smaller
      have hbound : n ≤ left.length * d.root.inside.length + next.inside.length :=
        ih (v := (v.wayOut d node (exit, next)).next)
          (Document.mem_scope_of_exits hscope hnode hexit) hleft h
      have hsmaller : next.inside.length < v.schema.inside.length :=
        Json.length_inside_lt (mem_cons_inside_of_exits List.mem_cons_self hnode hexit)
      omega

/-- So many levels suffice for any walk from the schema. -/
def Document.depthBound (d : Document) (root : Json) : Nat :=
  (d.references root).length * d.root.inside.length + root.inside.length

lemma Reaches.le_depthBound {o : Origin d} {path : String} (h : Reaches d (.start o path) n u) :
    n ≤ d.depthBound o.schema := by
  have hscope : o.schema ∈ d.scope o.schema := by simp [Document.scope]
  have hleft : ∀ token ∈ d.references o.schema,
      token ∈ [] ∨ token ∈ d.references o.schema := fun token htoken => Or.inr htoken
  exact h.le_of_left hscope hleft

/-- **The cycle guard alone bounds the depth of a walk**: no place is further away than the bound,
so no larger limit leaves anything for its depth, and all of them give the same table. -/
theorem exists_depth_bound (d : Document) (o : Origin d) (path : String) :
    ∃ bound, (∀ n v, Reaches d (.start o path) n v → n ≤ bound) ∧
      ∃ table : FieldTable, table.DepthFree ∧
        ∀ maxDepth, bound ≤ maxDepth → FieldTable.empty.walk d maxDepth o path = table := by
  have hends : (Visit.start o path).Ends d (d.depthBound o.schema + 1) := by
    intro v hv
    have hle := hv.le_depthBound
    omega
  -- the table of the walk with this bound is the one of every larger limit
  refine ⟨d.depthBound o.schema, fun n v hv => hv.le_depthBound,
    FieldTable.empty.walk d (d.depthBound o.schema) o path, depthFree_walk_iff.2 hends, ?_⟩
  intro maxDepth hle
  rw [FieldTable.walk, FieldTable.walk, walkFindings, walkFindings,
    findings_eq_of_ends (d.depthBound o.schema) maxDepth hends (by omega)]

end

end ApiSurvey.Schema
