import ApiSurvey.Schema.FieldTable
import Mathlib.Data.List.Nodup
import Mathlib.Tactic.Common

/-!
# What a table has recorded

The parts of a table in terms of the findings that it was filled with.  The lists of paths and of
truncations hold what was found and nothing else, the examples stand at the paths where one was
found, and the values at a path are all that were enumerated there, united.  No path has two lists
of enumerated values.
-/

namespace ApiSurvey.Schema

namespace Finding

/-- The path that is found to be required. -/
def requiredPath? : Finding → Option String
  | .required path => some path
  | _ => none

/-- The path that is found to be read-only. -/
def readOnlyPath? : Finding → Option String
  | .readOnly path => some path
  | _ => none

/-- The path at which an example is found. -/
def examplePath? : Finding → Option String
  | .exampleValue path _ => some path
  | _ => none

/-- The path at which some values are found to be enumerated. -/
def enumPath? : Finding → Option String
  | .enumValues path values => if values.isEmpty then none else some path
  | _ => none

/-- The branch that is found not to be followed. -/
def truncation? : Finding → Option Truncation
  | .truncated truncation => some truncation
  | _ => none

/-- The values that are found to be enumerated at a path. -/
def valuesAt (p : String) : Finding → List Json
  | .enumValues path values => if path = p then values else []
  | _ => []

end Finding

namespace FieldTable

/-! ## Paths -/

section

variable {α : Type} [DecidableEq α] {known new : List α} {a b : α}

lemma mem_appendNew : b ∈ appendNew known a ↔ b ∈ known ∨ b = a := by
  unfold appendNew
  split
  · next h =>
    constructor
    · exact Or.inl
    · rintro (hb | rfl)
      · exact hb
      · exact h
  · simp

lemma nodup_appendNew (h : known.Nodup) (a : α) : (appendNew known a).Nodup := by
  unfold appendNew
  split
  · exact h
  · next ha =>
    rw [← List.concat_eq_append]
    exact h.concat ha

lemma nodup_foldl_appendNew (h : known.Nodup) (new : List α) :
    (new.foldl appendNew known).Nodup := by
  induction new generalizing known with
  | nil => exact h
  | cons a new ih => exact ih (nodup_appendNew h a)

lemma mem_foldl_appendNew : b ∈ new.foldl appendNew known ↔ b ∈ known ∨ b ∈ new := by
  induction new generalizing known with
  | nil => simp
  | cons a new ih => rw [List.foldl_cons, ih, mem_appendNew, List.mem_cons, or_assoc]

end

/-- A part of the table that takes at most one entry from each finding takes those of all findings,
in order. -/
lemma recordAll_part {α β : Type} (part : FieldTable → α) {found : Finding → Option β}
    {add : α → β → α} (h : ∀ t f, part (t.record f) = (found f).elim (part t) (add (part t)))
    (t : FieldTable) (fs : List Finding) :
    part (t.recordAll fs) = (fs.filterMap found).foldl add (part t) := by
  induction fs generalizing t with
  | nil => rfl
  | cons f fs ih =>
    have hstep : t.recordAll (f :: fs) = (t.record f).recordAll fs := rfl
    rw [hstep, ih, h, List.filterMap_cons]
    cases found f <;> rfl

/-- A finding adds to the list of its own kind only. -/
lemma lists_record (t : FieldTable) (f : Finding) :
    (t.record f).required = f.requiredPath?.elim t.required (appendNew t.required)
      ∧ (t.record f).readOnly = f.readOnlyPath?.elim t.readOnly (appendNew t.readOnly)
      ∧ (t.record f).truncated = f.truncation?.elim t.truncated t.truncated.concat := by
  cases f with
  | exampleValue path value =>
    simp only [record]
    split <;> exact ⟨rfl, rfl, rfl⟩
  | enumValues path values =>
    simp only [record]
    split <;> exact ⟨rfl, rfl, rfl⟩
  | truncated truncation => exact ⟨rfl, rfl, List.concat_eq_append.symm⟩
  | _ => exact ⟨rfl, rfl, rfl⟩

/-- The required paths of a table come from what was found to be required alone. -/
lemma required_recordAll (t : FieldTable) (fs : List Finding) :
    (t.recordAll fs).required
      = (fs.filterMap Finding.requiredPath?).foldl appendNew t.required :=
  recordAll_part FieldTable.required (fun t f => (lists_record t f).1) t fs

/-- A path is listed as required exactly if it was found to be. -/
lemma mem_required_recordAll {t : FieldTable} {fs : List Finding} {p : String} :
    p ∈ (t.recordAll fs).required ↔ p ∈ t.required ∨ Finding.required p ∈ fs := by
  have hfound (f : Finding) : f.requiredPath? = some p ↔ f = .required p := by
    cases f <;> simp [Finding.requiredPath?]
  simp only [required_recordAll, mem_foldl_appendNew, List.mem_filterMap, hfound, exists_eq_right]

/-- The read-only paths of a table come from what was found to be read-only alone. -/
lemma readOnly_recordAll (t : FieldTable) (fs : List Finding) :
    (t.recordAll fs).readOnly
      = (fs.filterMap Finding.readOnlyPath?).foldl appendNew t.readOnly :=
  recordAll_part FieldTable.readOnly (fun t f => (lists_record t f).2.1) t fs

/-- A path is listed as read-only exactly if it was found to be. -/
lemma mem_readOnly_recordAll {t : FieldTable} {fs : List Finding} {p : String} :
    p ∈ (t.recordAll fs).readOnly ↔ p ∈ t.readOnly ∨ Finding.readOnly p ∈ fs := by
  have hfound (f : Finding) : f.readOnlyPath? = some p ↔ f = .readOnly p := by
    cases f <;> simp [Finding.readOnlyPath?]
  simp only [readOnly_recordAll, mem_foldl_appendNew, List.mem_filterMap, hfound, exists_eq_right]

/-! ## Truncations -/

/-- The truncations of a table are those that were found, in order. -/
lemma truncated_recordAll (t : FieldTable) (fs : List Finding) :
    (t.recordAll fs).truncated = t.truncated ++ fs.filterMap Finding.truncation? := by
  have hconcat (known new : List Truncation) : new.foldl List.concat known = known ++ new := by
    induction new generalizing known with
    | nil => exact (List.append_nil known).symm
    | cons x new ih => rw [List.foldl_cons, ih, List.concat_append]
  rw [recordAll_part FieldTable.truncated fun t f => (lists_record t f).2.2, hconcat]

/-- A truncation is listed exactly if it was found. -/
lemma mem_truncated_recordAll {t : FieldTable} {fs : List Finding} {x : Truncation} :
    x ∈ (t.recordAll fs).truncated ↔ x ∈ t.truncated ∨ Finding.truncated x ∈ fs := by
  have hfound (f : Finding) : f.truncation? = some x ↔ f = .truncated x := by
    cases f <;> simp [Finding.truncation?]
  simp only [truncated_recordAll, List.mem_append, List.mem_filterMap, hfound, exists_eq_right]

/-- No branch was left for its depth. -/
def DepthFree (t : FieldTable) : Prop :=
  ∀ x ∈ t.truncated, ∀ limit, x.reason ≠ .depth limit

lemma DepthFree.of_truncated_eq_nil {t : FieldTable} (h : t.truncated = []) : t.DepthFree := by
  intro x hx
  rw [h] at hx
  cases hx

lemma depthFree_recordAll_iff {fs : List Finding} :
    (empty.recordAll fs).DepthFree ↔
      ∀ path limit, Finding.truncated ⟨path, .depth limit⟩ ∉ fs := by
  constructor
  · intro h path limit hmem
    exact h ⟨path, .depth limit⟩ (mem_truncated_recordAll.2 (Or.inr hmem)) limit rfl
  · rintro h ⟨path, reason⟩ hx limit rfl
    rcases mem_truncated_recordAll.1 hx with hx | hx
    · simp [empty] at hx
    · exact h path limit hx

/-! ## Examples -/

lemma lookup_isSome_iff {β : Type} {table : List (String × β)} {path : String} :
    (table.lookup path).isSome = true ↔ path ∈ table.map Prod.fst := by
  induction table with
  | nil => simp
  | cons entry table ih =>
    obtain ⟨p, b⟩ := entry
    rw [Json.lookup_cons]
    by_cases hp : path = p <;> simp [hp, ih]

lemma record_exampleValue (t : FieldTable) (path : String) (value : Json) :
    t.record (.exampleValue path value) = if path ∈ t.examples.map Prod.fst then t
      else { t with examples := t.examples ++ [(path, value)] } := by
  simp only [record, lookup_isSome_iff]

lemma map_fst_examples_record (t : FieldTable) (f : Finding) :
    (t.record f).examples.map Prod.fst = f.examplePath?.elim (t.examples.map Prod.fst)
      (appendNew (t.examples.map Prod.fst)) := by
  cases f with
  | exampleValue path value =>
    rw [record_exampleValue, Finding.examplePath?, Option.elim_some, appendNew]
    split <;> simp
  | enumValues path values =>
    simp only [record]
    split <;> rfl
  | _ => rfl

/-- The paths with an example come from where one was found alone. -/
lemma map_fst_examples_recordAll (t : FieldTable) (fs : List Finding) :
    (t.recordAll fs).examples.map Prod.fst
      = (fs.filterMap Finding.examplePath?).foldl appendNew (t.examples.map Prod.fst) :=
  recordAll_part (fun t => t.examples.map Prod.fst) map_fst_examples_record t fs

/-- A path has an example exactly if one was found there. -/
lemma mem_examples_recordAll {t : FieldTable} {fs : List Finding} {p : String} :
    p ∈ (t.recordAll fs).examples.map Prod.fst
      ↔ p ∈ t.examples.map Prod.fst ∨ ∃ value, Finding.exampleValue p value ∈ fs := by
  have hfound (f : Finding) : f.examplePath? = some p ↔ ∃ value, f = .exampleValue p value := by
    cases f <;> simp [Finding.examplePath?]
  rw [map_fst_examples_recordAll, mem_foldl_appendNew, List.mem_filterMap]
  refine or_congr_right ⟨?_, ?_⟩
  · rintro ⟨f, hf, hpath⟩
    obtain ⟨value, rfl⟩ := (hfound f).1 hpath
    exact ⟨value, hf⟩
  · rintro ⟨value, hf⟩
    exact ⟨_, hf, (hfound _).2 ⟨value, rfl⟩⟩

/-! ## Enumerated values -/

lemma lookup_uniteAt (table : List (String × List Json)) (path q : String) (values : List Json) :
    (uniteAt table path values).lookup q =
      if q = path then some (unite ((table.lookup path).getD []) values) else table.lookup q := by
  induction table with
  | nil => simp [uniteAt, Json.lookup_cons]
  | cons entry table ih =>
    obtain ⟨p, known⟩ := entry
    by_cases hp : p = path
    · subst hp
      simp only [uniteAt, if_true, Json.lookup_cons, Option.getD_some]
      split <;> rfl
    · simp only [uniteAt, if_neg hp, if_neg (Ne.symm hp), Json.lookup_cons, ih]
      by_cases hq : q = p
      · subst hq
        simp [hp]
      · simp [hq]

lemma map_fst_uniteAt (table : List (String × List Json)) (path : String) (values : List Json) :
    (uniteAt table path values).map Prod.fst = appendNew (table.map Prod.fst) path := by
  induction table with
  | nil => simp [uniteAt, appendNew]
  | cons entry table ih =>
    obtain ⟨p, known⟩ := entry
    by_cases hp : p = path
    · subst hp
      simp [uniteAt, appendNew]
    · simp only [uniteAt, if_neg hp, List.map_cons, ih, appendNew, List.mem_cons, Ne.symm hp,
        false_or]
      split <;> simp

lemma map_fst_enums_record (t : FieldTable) (f : Finding) :
    (t.record f).enums.map Prod.fst = f.enumPath?.elim (t.enums.map Prod.fst)
      (appendNew (t.enums.map Prod.fst)) := by
  cases f with
  | exampleValue path value =>
    simp only [record]
    split <;> rfl
  | enumValues path values =>
    simp only [record, Finding.enumPath?]
    split
    · rfl
    · exact map_fst_uniteAt ..
  | _ => rfl

/-- No path has two lists of enumerated values. -/
lemma nodup_enums_recordAll {t : FieldTable} (h : (t.enums.map Prod.fst).Nodup)
    (fs : List Finding) : ((t.recordAll fs).enums.map Prod.fst).Nodup := by
  have hpaths := recordAll_part (fun t => t.enums.map Prod.fst) map_fst_enums_record t fs
  rw [hpaths]
  exact nodup_foldl_appendNew h _

lemma unite_cons (known : List Json) (u : Json) (values : List Json) :
    unite known (u :: values)
      = unite (if known.any (·.same u) then known else known ++ [u]) values :=
  rfl

/-- Uniting values with some known ones adds no other values. -/
lemma mem_of_mem_unite {known values : List Json} {v : Json} (h : v ∈ unite known values) :
    v ∈ known ∨ v ∈ values := by
  induction values generalizing known with
  | nil => exact Or.inl h
  | cons u values ih =>
    rw [unite_cons] at h
    rcases ih h with h | h
    · split at h
      · exact Or.inl h
      · rcases List.mem_append.1 h with h | h
        · exact Or.inl h
        · exact Or.inr (List.mem_cons.2 (Or.inl (List.mem_singleton.1 h)))
    · exact Or.inr (List.mem_cons_of_mem u h)

/-- Every known value is kept when others are united with it. -/
lemma mem_unite_of_mem {known : List Json} {v : Json} (h : v ∈ known) (values : List Json) :
    v ∈ unite known values := by
  induction values generalizing known with
  | nil => exact h
  | cons u values ih =>
    rw [unite_cons]
    refine ih ?_
    split
    · exact h
    · exact List.mem_append_left _ h

/-- Of each of the values there is an equal one after uniting them. -/
lemma exists_mem_unite {values : List Json} {v : Json} (h : v ∈ values) (known : List Json) :
    ∃ w ∈ unite known values, w = v ∨ w.same v = true := by
  induction values generalizing known with
  | nil => cases h
  | cons u values ih =>
    rcases List.mem_cons.1 h with rfl | h
    · -- `v` is dropped for an equal value, or appended; both are kept
      rw [unite_cons]
      split
      · next hany =>
        obtain ⟨w, hw, hsame⟩ := List.any_eq_true.1 hany
        exact ⟨w, mem_unite_of_mem hw values, Or.inr hsame⟩
      · have hv : v ∈ known ++ [v] := List.mem_append_right _ (List.mem_singleton_self v)
        exact ⟨v, mem_unite_of_mem hv values, Or.inl rfl⟩
    · exact ih h _

lemma unite_ne_nil {values : List Json} (h : values ≠ []) (known : List Json) :
    unite known values ≠ [] := by
  obtain ⟨v, hv⟩ := List.exists_mem_of_ne_nil values h
  obtain ⟨w, hw, -⟩ := exists_mem_unite hv known
  exact List.ne_nil_of_mem hw

/-- Values no two of which are equal stay so when others are united with them. -/
lemma pairwise_unite {known : List Json} (h : known.Pairwise fun v w => v.same w = false)
    (values : List Json) : (unite known values).Pairwise fun v w => v.same w = false := by
  induction values generalizing known with
  | nil => exact h
  | cons u values ih =>
    rw [unite_cons]
    refine ih ?_
    split
    · exact h
    · next hnone =>
      refine List.pairwise_append.2 ⟨h, List.pairwise_singleton _ u, fun v hv w hw => ?_⟩
      obtain rfl := List.mem_singleton.1 hw
      rw [List.any_eq_true] at hnone
      exact Bool.eq_false_iff.2 fun hsame => hnone ⟨v, hv, hsame⟩

/-- An entry after uniting is one from before, or the one at the path, with the new values. -/
lemma mem_uniteAt {table : List (String × List Json)} {path p : String}
    {values united : List Json} (h : (p, united) ∈ uniteAt table path values) :
    (p, united) ∈ table
      ∨ ∃ known, ((path, known) ∈ table ∨ known = []) ∧ united = unite known values := by
  induction table with
  | nil =>
    obtain ⟨rfl, rfl⟩ := Prod.mk.inj (List.mem_singleton.1 h)
    exact Or.inr ⟨[], Or.inr rfl, rfl⟩
  | cons entry table ih =>
    obtain ⟨q, known⟩ := entry
    rw [uniteAt] at h
    split at h
    · next hq =>
      rcases List.mem_cons.1 h with heq | h
      · obtain ⟨rfl, rfl⟩ := Prod.mk.inj heq
        exact Or.inr ⟨known, Or.inl (hq ▸ List.mem_cons_self), rfl⟩
      · exact Or.inl (List.mem_cons_of_mem _ h)
    · rcases List.mem_cons.1 h with heq | h
      · exact Or.inl (heq ▸ List.mem_cons_self)
      · exact (ih h).imp (List.mem_cons_of_mem _) fun ⟨known', hknown', hunited⟩ =>
          ⟨known', hknown'.imp_left (List.mem_cons_of_mem _), hunited⟩

lemma enum?_record (t : FieldTable) (f : Finding) (p : String) :
    (t.record f).enum? p = if f.valuesAt p = [] then t.enum? p
      else some (unite ((t.enum? p).getD []) (f.valuesAt p)) := by
  cases f with
  | exampleValue path value =>
    simp only [record, Finding.valuesAt, if_true]
    split <;> rfl
  | enumValues path values =>
    by_cases hvalues : values = []
    · simp [record, Finding.valuesAt, hvalues]
    · by_cases hp : path = p
      · subst hp
        simp [record, Finding.valuesAt, enum?, hvalues, lookup_uniteAt]
      · simp [record, Finding.valuesAt, enum?, hvalues, lookup_uniteAt, hp, Ne.symm hp]
  | _ => simp [record, Finding.valuesAt, enum?]

/-- **The values at a path are all that were enumerated there, united.** -/
lemma enum?_recordAll (t : FieldTable) (fs : List Finding) (p : String) :
    (t.recordAll fs).enum? p = if fs.flatMap (Finding.valuesAt p) = [] then t.enum? p
      else some (unite ((t.enum? p).getD []) (fs.flatMap (Finding.valuesAt p))) := by
  induction fs generalizing t with
  | nil => rfl
  | cons f fs ih =>
    have h := ih (t := t.record f)
    rw [enum?_record] at h
    have hunite (known : List Json) : unite known (f.valuesAt p ++ fs.flatMap (·.valuesAt p))
        = unite (unite known (f.valuesAt p)) (fs.flatMap (·.valuesAt p)) := List.foldl_append
    refine h.trans ?_
    by_cases hf : f.valuesAt p = []
    · rw [List.flatMap_cons, hf, if_pos rfl, List.nil_append]
    · by_cases hfs : fs.flatMap (·.valuesAt p) = []
      · rw [List.flatMap_cons, hfs, List.append_nil, if_pos rfl]
      · rw [List.flatMap_cons, if_neg hf, if_neg hfs, if_neg (by simp [hf]), hunite,
          Option.getD_some]

section

variable {fs : List Finding} {f : Finding} {p : String} {values : List Json} {v : Json}

/-- A value that a table enumerates at a path was found to be enumerated there. -/
lemma exists_mem_valuesAt (h : (empty.recordAll fs).enum? p = some values) (hv : v ∈ values) :
    ∃ f ∈ fs, v ∈ f.valuesAt p := by
  rw [enum?_recordAll] at h
  split at h
  · cases h
  · obtain rfl := Option.some.inj h
    exact List.mem_flatMap.1 ((mem_of_mem_unite hv).resolve_left List.not_mem_nil)

/-- Of a value that was found to be enumerated at a path, the table has an equal one there. -/
lemma exists_enum?_of_mem_valuesAt (hf : f ∈ fs) (hv : v ∈ f.valuesAt p) :
    ∃ values, (empty.recordAll fs).enum? p = some values
      ∧ ∃ w ∈ values, w = v ∨ w.same v = true := by
  have hmem : v ∈ fs.flatMap (Finding.valuesAt p) := List.mem_flatMap.2 ⟨f, hf, hv⟩
  rw [enum?_recordAll, if_neg (List.ne_nil_of_mem hmem)]
  exact ⟨_, rfl, exists_mem_unite hmem _⟩

end

end FieldTable

end ApiSurvey.Schema
