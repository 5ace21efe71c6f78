import ApiSurvey.Proofs.Schema.Component
import Mathlib.Data.List.Flatten

/-!
# Deeper walks

A walk with a higher limit goes the same way, and further on at the places where the other one was
left for its depth.  So what the other one finds, apart from these places, is found again in the
same order, with more in between.  The table of the deeper walk tells everything that the other
table tells; only an example at a path may be another one, since the first that is found is kept,
and a value that is enumerated may be given by an equal one.
-/

namespace ApiSurvey.Schema

/-- Whether a branch is found to be left for its depth. -/
def Finding.isDepth : Finding → Bool
  | .truncated ⟨_, .depth _⟩ => true
  | _ => false

/-- **A deeper walk finds the same and more**, in the same order. -/
lemma findings_filter_sublist {d : Document} {limit limit' levels levels' : Nat} {v : Visit}
    (hle : levels ≤ levels') :
    ((findings d limit levels v).filter fun f => !f.isDepth).Sublist
      (findings d limit' levels' v) := by
  induction levels generalizing levels' v with
  | zero => exact List.nil_sublist _
  | succ levels ih =>
    obtain ⟨levels', rfl⟩ : ∃ m, levels' = m + 1 := ⟨levels' - 1, by omega⟩
    rw [findings, findings]
    cases v.outlook d with
    | cut reference => exact List.Sublist.refl _
    | edges ways =>
      dsimp only
      rw [List.filter_flatMap]
      refine List.Sublist.flatMap_right ways fun way _ => ?_
      rw [List.filter_append]
      exact List.filter_sublist.append (ih (by omega))

namespace FieldTable

/-- Everything that one table tells is told by another one: the paths, the values that are
enumerated up to equality as data, and the truncations at cycles as many times.  (A value equals
itself as data unless a member of it is repeated, which no document has.) -/
structure Within (t t' : FieldTable) : Prop where
  required : ∀ p ∈ t.required, p ∈ t'.required
  readOnly : ∀ p ∈ t.readOnly, p ∈ t'.readOnly
  examples : ∀ p ∈ t.examples.map Prod.fst, p ∈ t'.examples.map Prod.fst
  enums : ∀ p values, t.enum? p = some values → ∀ v ∈ values,
    ∃ values', t'.enum? p = some values' ∧ ∃ w ∈ values', w = v ∨ w.same v = true
  cycles : ∀ p reference,
    t.truncated.count ⟨p, .cycle reference⟩ ≤ t'.truncated.count ⟨p, .cycle reference⟩

lemma count_truncated_recordAll (fs : List Finding) (x : Truncation) :
    (empty.recordAll fs).truncated.count x = fs.count (.truncated x) := by
  rw [truncated_recordAll, empty, List.nil_append, List.count_filterMap, List.count]
  refine List.countP_congr fun f _ => ?_
  cases f <;> simp [Finding.truncation?]

/-- A table is within another one if all its findings, except for depths, are among those of the
other one. -/
lemma within_of_sublist {fs fs' : List Finding}
    (h : (fs.filter fun f => !f.isDepth).Sublist fs') :
    (empty.recordAll fs).Within (empty.recordAll fs') := by
  have hmem : ∀ f ∈ fs, f.isDepth = false → f ∈ fs' := by
    intro f hf hdepth
    exact h.subset (List.mem_filter.2 ⟨hf, by rw [hdepth]; rfl⟩)
  refine ⟨fun p hp => ?_, fun p hp => ?_, fun p hp => ?_, fun p values hvalues v hv => ?_,
    fun p reference => ?_⟩
  · rw [mem_required_recordAll] at hp ⊢
    exact hp.imp_right fun hfound => hmem _ hfound rfl
  · rw [mem_readOnly_recordAll] at hp ⊢
    exact hp.imp_right fun hfound => hmem _ hfound rfl
  · rw [mem_examples_recordAll] at hp ⊢
    exact hp.imp_right fun ⟨value, hfound⟩ => ⟨value, hmem _ hfound rfl⟩
  · obtain ⟨f, hf, hv⟩ := exists_mem_valuesAt hvalues hv
    have hdepth : f.isDepth = false := by
      cases f with
      | truncated x => cases hv
      | _ => rfl
    exact exists_enum?_of_mem_valuesAt (hmem f hf hdepth) hv
  · rw [count_truncated_recordAll, count_truncated_recordAll]
    calc fs.count (.truncated ⟨p, .cycle reference⟩)
        = (fs.filter fun f => !f.isDepth).count (.truncated ⟨p, .cycle reference⟩) :=
          (List.count_filter rfl).symm
      _ ≤ fs'.count (.truncated ⟨p, .cycle reference⟩) := h.count_le _

end FieldTable

/-- **A higher limit loses nothing**: what a walk tells is told by every deeper one, and a walk that
leaves nothing for its depth gives the same table as they do. -/
theorem walk_within_deeper (d : Document) (o : Origin d) (path : String) {limit limit' : Nat}
    (hle : limit ≤ limit') :
    (FieldTable.empty.walk d limit o path).Within (FieldTable.empty.walk d limit' o path)
      ∧ ((FieldTable.empty.walk d limit o path).DepthFree →
        FieldTable.empty.walk d limit' o path = FieldTable.empty.walk d limit o path) := by
  constructor
  · exact FieldTable.within_of_sublist (findings_filter_sublist (by omega))
  · intro hdepth
    have hends := depthFree_walk_iff.1 hdepth
    rw [FieldTable.walk, FieldTable.walk, walkFindings, walkFindings,
      findings_eq_of_ends limit limit' hends (by omega)]

/-! A folder leads back to itself, and its label is further down than two levels. -/

def folderSchema : Json := .object
  [("required", .array [.string "id"]),
    ("properties", .object
      [("id", .object [("readOnly", .bool true)]),
        ("kind", .object [("enum", .array [.string "own", .string "shared"])]),
        ("parent", schemaReference "Folder"),
        ("view", .object [("properties", .object
          [("label", .object [("example", .string "Letters")])])])])]

def folders : Document := .ofSchemas [("Folder", folderSchema)]

/-- The table of a walk through the folders with so many levels below the first. -/
def folderTable (limit : Nat) : FieldTable :=
  FieldTable.empty.walk folders limit (.value (schemaReference "Folder")) ""

theorem walk_within_deeper_folders :
    2 ≤ 3 ∧ (folderTable 2).Within (folderTable 3)
      ∧ (folderTable 2).truncated
        = [⟨"parent", .cycle "Folder"⟩, ⟨"view.label", .depth 2⟩]
      ∧ (folderTable 3).DepthFree ∧ folderTable 9 = folderTable 3 := by
  have hcut : (folderTable 2).truncated
      = [⟨"parent", .cycle "Folder"⟩, ⟨"view.label", .depth 2⟩] := rfl
  have hfree : (folderTable 3).DepthFree := by
    intro x hx limit hreason
    have hone : (folderTable 3).truncated = [⟨"parent", .cycle "Folder"⟩] := rfl
    rw [hone] at hx
    obtain rfl := List.mem_singleton.1 hx
    cases hreason
  have hwithin := (walk_within_deeper folders (.value (schemaReference "Folder")) ""
    (show 2 ≤ 3 by decide)).1
  have hsame := (walk_within_deeper folders (.value (schemaReference "Folder")) ""
    (show 3 ≤ 9 by decide)).2 hfree
  exact ⟨by decide, hwithin, hcut, hfree, hsame⟩

end ApiSurvey.Schema
