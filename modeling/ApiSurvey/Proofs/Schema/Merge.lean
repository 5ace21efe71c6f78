import ApiSurvey.Proofs.Json.Same
import ApiSurvey.Proofs.Schema.Recorded
import ApiSurvey.Schema.Walk
import Mathlib.Data.List.Induction

/-!
# Merging tables

One walker may walk several schemas, each at a path of its own, and fills one table with all
that it finds.  The same table comes of walking each schema alone and merging the tables
afterwards: the first example at a path stays, the enumerated values at a path are extended by
those that are new, the lists of paths by the paths that are new, and everything keeps the order
in which it was first seen.

Removing duplicates twice, within each table and then between the tables, is as good as removing
them once because equality as data is transitive.
-/

namespace ApiSurvey.Schema.FieldTable

/-- The first values followed by those of the second that equal none of the first as data. -/
def extendValues (known new : List Json) : List Json :=
  known ++ new.filter fun v => !known.any (·.same v)

/-- The first lists of values by path, each extended by the second at its path, followed by the
second lists at the other paths. -/
def mergeEnums (first second : List (String × List Json)) : List (String × List Json) :=
  first.map (fun entry => (entry.1, extendValues entry.2 ((second.lookup entry.1).getD [])))
    ++ second.filter fun entry => entry.1 ∉ first.map Prod.fst

/-- The first table with the second one merged into it. -/
def merge (t u : FieldTable) : FieldTable where
  examples := t.examples ++ u.examples.filter fun entry => entry.1 ∉ t.examples.map Prod.fst
  enums := mergeEnums t.enums u.enums
  required := t.required ++ u.required.filter (· ∉ t.required)
  readOnly := t.readOnly ++ u.readOnly.filter (· ∉ t.readOnly)
  truncated := t.truncated ++ u.truncated

/-! ## Merging after one more finding -/

/-- Appending an element that is new to the second list, and then to the first, appends it where
it is new to both. -/
lemma appendNew_filter {α : Type} [DecidableEq α] (known new : List α) (a : α) :
    known ++ (appendNew new a).filter (· ∉ known)
      = appendNew (known ++ new.filter (· ∉ known)) a := by
  by_cases hk : a ∈ known
  · by_cases hn : a ∈ new <;> simp [appendNew, hk, hn]
  · by_cases hn : a ∈ new <;> simp [appendNew, hk, hn]

/-- Uniting more values with an extension extends the values united with more. -/
lemma unite_extendValues (known new values : List Json) :
    unite (extendValues known new) values = extendValues known (unite new values) := by
  induction values generalizing new with
  | nil => rfl
  | cons v values ih =>
    have hstep : (if (extendValues known new).any (·.same v) then extendValues known new
          else extendValues known new ++ [v])
        = extendValues known (if new.any (·.same v) then new else new ++ [v]) := by
      by_cases hn : new.any (·.same v) = true
      · -- the value of the second list that equals `v` may have been dropped for one of the first
        have hany : (extendValues known new).any (·.same v) = true := by
          obtain ⟨w, hw, hwv⟩ := List.any_eq_true.1 hn
          by_cases hk : known.any (·.same w) = true
          · obtain ⟨x, hx, hxw⟩ := List.any_eq_true.1 hk
            exact List.any_eq_true.2
              ⟨x, List.mem_append_left _ hx, Json.same_trans x w v hxw hwv⟩
          · exact List.any_eq_true.2
              ⟨w, List.mem_append_right _ (List.mem_filter.2 ⟨hw, by simpa using hk⟩), hwv⟩
        rw [if_pos hany, if_pos hn]
      · have hf : ¬ (new.filter fun w => !known.any (·.same w)).any (·.same v) = true := by
          simp only [List.any_filter, List.any_eq_true, not_exists] at hn ⊢
          rintro w ⟨hw, hwv⟩
          exact hn w ⟨hw, (Bool.and_eq_true _ _ ▸ hwv).2⟩
        by_cases hk : known.any (·.same v) = true
        · simp [extendValues, List.any_append, hk, hn, List.filter_append]
        · simp [extendValues, List.any_append, hk, hf, hn, List.filter_append]
    calc unite (extendValues known new) (v :: values)
        = unite (extendValues known (if new.any (·.same v) then new else new ++ [v])) values := by
          rw [← hstep]
          rfl
      _ = extendValues known (unite new (v :: values)) := ih _

lemma uniteAt_append_of_mem {table rest : List (String × List Json)} {path : String}
    (h : path ∈ table.map Prod.fst) (values : List Json) :
    uniteAt (table ++ rest) path values = uniteAt table path values ++ rest := by
  induction table with
  | nil => simp at h
  | cons entry table ih =>
    obtain ⟨p, known⟩ := entry
    by_cases hp : p = path
    · simp [uniteAt, hp]
    · have hmem : path ∈ table.map Prod.fst := by simpa [Ne.symm hp] using h
      simp [uniteAt, hp, ih hmem]

lemma uniteAt_append_of_notMem {table rest : List (String × List Json)} {path : String}
    (h : path ∉ table.map Prod.fst) (values : List Json) :
    uniteAt (table ++ rest) path values = table ++ uniteAt rest path values := by
  induction table with
  | nil => rfl
  | cons entry table ih =>
    obtain ⟨p, known⟩ := entry
    have hp : ¬ p = path := fun e => h (by simp [e])
    have hrest : path ∉ table.map Prod.fst := fun e => h (by simpa using Or.inr e)
    simp [uniteAt, hp, ih hrest]

/-- Uniting values at a path that the first table has is done in its entry there. -/
lemma uniteAt_map_extendValues {first : List (String × List Json)}
    (hfirst : (first.map Prod.fst).Nodup) (second : List (String × List Json)) {path : String}
    (h : path ∈ first.map Prod.fst) (values : List Json) :
    uniteAt (first.map fun entry =>
        (entry.1, extendValues entry.2 ((second.lookup entry.1).getD []))) path values
      = first.map fun entry =>
        (entry.1,
          extendValues entry.2 (((uniteAt second path values).lookup entry.1).getD [])) := by
  induction first with
  | nil => simp at h
  | cons entry first ih =>
    obtain ⟨p, known⟩ := entry
    rw [List.map_cons, List.nodup_cons] at hfirst
    by_cases hp : p = path
    · subst hp
      have hrest : ∀ entry ∈ first, entry.1 ≠ p := by
        intro entry hentry he
        exact hfirst.1 (List.mem_map.2 ⟨entry, hentry, he⟩)
      simp only [List.map_cons, uniteAt, if_true, lookup_uniteAt, unite_extendValues,
        Option.getD_some, List.cons.injEq, true_and]
      refine List.map_congr_left fun entry hentry => ?_
      rw [if_neg (hrest entry hentry)]
    · have hmem : path ∈ first.map Prod.fst := by simpa [Ne.symm hp] using h
      simp only [List.map_cons, uniteAt, if_neg hp, ih hfirst.2 hmem, lookup_uniteAt]

lemma filter_uniteAt_of_mem {second : List (String × List Json)} {paths : List String}
    {path : String} (h : path ∈ paths) (values : List Json) :
    (uniteAt second path values).filter (fun entry => entry.1 ∉ paths)
      = second.filter fun entry => entry.1 ∉ paths := by
  induction second with
  | nil => simp [uniteAt, h]
  | cons entry second ih =>
    obtain ⟨p, known⟩ := entry
    by_cases hp : p = path
    · simp [uniteAt, hp, h]
    · simp only [uniteAt, if_neg hp, List.filter_cons, ih]

lemma filter_uniteAt_of_notMem {second : List (String × List Json)} {paths : List String}
    {path : String} (h : path ∉ paths) (values : List Json) :
    (uniteAt second path values).filter (fun entry => entry.1 ∉ paths)
      = uniteAt (second.filter fun entry => entry.1 ∉ paths) path values := by
  induction second with
  | nil => simp [uniteAt, h]
  | cons entry second ih =>
    obtain ⟨p, known⟩ := entry
    by_cases hp : p = path
    · subst hp
      simp [uniteAt, h]
    · by_cases hq : p ∈ paths
      · simpa [uniteAt, hp, hq] using ih
      · simpa [uniteAt, hp, hq] using ih

lemma mergeEnums_uniteAt {first : List (String × List Json)}
    (hfirst : (first.map Prod.fst).Nodup) (second : List (String × List Json)) (path : String)
    (values : List Json) :
    mergeEnums first (uniteAt second path values)
      = uniteAt (mergeEnums first second) path values := by
  have hpaths : ∀ g : String × List Json → List Json,
      (first.map fun entry => (entry.1, g entry)).map Prod.fst = first.map Prod.fst := by
    intro g
    simp [Function.comp_def]
  -- the new values go to the part of the merged list that holds the path
  by_cases h : path ∈ first.map Prod.fst
  · rw [mergeEnums, mergeEnums, uniteAt_append_of_mem (by rwa [hpaths]),
      uniteAt_map_extendValues hfirst second h, filter_uniteAt_of_mem h]
  · rw [mergeEnums, mergeEnums, uniteAt_append_of_notMem (by rwa [hpaths]),
      filter_uniteAt_of_notMem h]
    congr 1
    refine List.map_congr_left fun entry hentry => ?_
    have hne : entry.1 ≠ path := fun e => h (e ▸ List.mem_map_of_mem hentry)
    rw [lookup_uniteAt, if_neg hne]

lemma mem_examples_merge {t u : FieldTable} {path : String} :
    path ∈ (t.merge u).examples.map Prod.fst
      ↔ path ∈ t.examples.map Prod.fst ∨ path ∈ u.examples.map Prod.fst := by
  simp only [merge, List.map_append, List.mem_append]
  constructor
  · rintro (h | h)
    · exact Or.inl h
    · obtain ⟨entry, hentry, rfl⟩ := List.mem_map.1 h
      exact Or.inr (List.mem_map_of_mem (List.mem_filter.1 hentry).1)
  · rintro (h | h)
    · exact Or.inl h
    · by_cases ht : path ∈ t.examples.map Prod.fst
      · exact Or.inl ht
      · obtain ⟨entry, hentry, rfl⟩ := List.mem_map.1 h
        exact Or.inr (List.mem_map_of_mem (List.mem_filter.2 ⟨hentry, by simpa using ht⟩))

/-- **Merging a table with one more finding adds the finding to the merged table.** -/
lemma merge_record {t : FieldTable} (ht : (t.enums.map Prod.fst).Nodup) (u : FieldTable)
    (f : Finding) : t.merge (u.record f) = (t.merge u).record f := by
  cases f with
  | required path => simp only [record, merge, appendNew_filter]
  | readOnly path => simp only [record, merge, appendNew_filter]
  | exampleValue path value =>
    simp only [record_exampleValue, mem_examples_merge]
    -- an example at a path of the first table is dropped by the merge, if not before
    by_cases hu : path ∈ u.examples.map Prod.fst
    · rw [if_pos hu, if_pos (Or.inr hu)]
    · by_cases h : path ∈ t.examples.map Prod.fst
      · rw [if_neg hu, if_pos (Or.inl h)]
        simp [merge, List.filter_append, h]
      · rw [if_neg hu, if_neg (not_or.2 ⟨h, hu⟩)]
        simp [merge, List.filter_append, h]
  | enumValues path values =>
    by_cases hv : values.isEmpty = true
    · rw [record, if_pos hv, record, if_pos hv]
    · rw [record, if_neg hv, record, if_neg hv]
      simp only [merge, mergeEnums_uniteAt ht]
  | truncated truncation => simp [record, merge]

/-- Merging the table of some findings adds the findings. -/
lemma merge_recordAll {t : FieldTable} (ht : (t.enums.map Prod.fst).Nodup) (fs : List Finding) :
    t.merge (empty.recordAll fs) = t.recordAll fs := by
  induction fs using List.reverseRecOn with
  | nil => simp [recordAll, merge, mergeEnums, extendValues, empty]
  | append_singleton fs f ih =>
    rw [recordAll_append, recordAll_append, ← ih]
    exact merge_record ht _ f

/-- **The table of several walks is the tables of the single walks merged in order**, whatever
the document, the depth limit, the schemas and the paths where they stand. -/
theorem foldl_walk_eq_foldl_merge (d : Document) (maxDepth : Nat)
    (steps : List (Origin d × String)) :
    steps.foldl (fun t step => t.walk d maxDepth step.1 step.2) empty
      = (steps.map fun step => empty.walk d maxDepth step.1 step.2).foldl merge empty := by
  suffices h : ∀ t : FieldTable, (t.enums.map Prod.fst).Nodup →
      steps.foldl (fun t step => t.walk d maxDepth step.1 step.2) t
        = (steps.map fun step => empty.walk d maxDepth step.1 step.2).foldl merge t from
    h empty List.nodup_nil
  induction steps with
  | nil => exact fun _ _ => rfl
  | cons step steps ih =>
    intro t ht
    have hstep : t.merge (empty.walk d maxDepth step.1 step.2) = t.walk d maxDepth step.1 step.2 :=
      merge_recordAll ht _
    rw [List.foldl_cons, List.map_cons, List.foldl_cons, hstep]
    exact ih _ (nodup_enums_recordAll ht _)

end ApiSurvey.Schema.FieldTable
