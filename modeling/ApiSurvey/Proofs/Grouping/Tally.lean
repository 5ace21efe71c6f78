import ApiSurvey.Grouping.Tally
import Mathlib.Algebra.GroupWithZero.Nat
import Mathlib.Data.List.Induction
import Mathlib.Data.List.Nodup
import Mathlib.Data.List.Perm.Basic

/-!
# What a tally holds

The tally of a list of keys has one entry for each of the keys, with the number of its
occurrences: counting one more key keeps the entries distinct, and changes the count of this key
only.  So the entries are determined by how often each key is given, up to their order, and their
counts add up to the number of keys.
-/

namespace ApiSurvey.Grouping.Tally

variable {t : Tally} {keys : List String} {key k : String} {n : Nat}

lemma map_fst_add (t : Tally) (key : String) :
    (t.add key).map Prod.fst
      = if key ∈ t.map Prod.fst then t.map Prod.fst else t.map Prod.fst ++ [key] := by
  induction t with
  | nil => rfl
  | cons entry t ih =>
    obtain ⟨l, m⟩ := entry
    by_cases hl : l = key
    · simp [add, hl]
    · have hne : key ≠ l := fun h => hl h.symm
      rw [add, if_neg hl, List.map_cons, ih]
      by_cases hmem : key ∈ t.map Prod.fst <;> simp [hmem, hne]

lemma nodup_add (h : (t.map Prod.fst).Nodup) : ((t.add key).map Prod.fst).Nodup := by
  rw [map_fst_add]
  split
  · exact h
  · next hkey =>
    rw [← List.concat_eq_append]
    exact h.concat hkey

lemma mem_add : k ∈ (t.add key).map Prod.fst ↔ k ∈ t.map Prod.fst ∨ k = key := by
  rw [map_fst_add]
  split
  · next hkey =>
    refine ⟨Or.inl, ?_⟩
    rintro (h | rfl)
    · exact h
    · exact hkey
  · rw [List.mem_append, List.mem_singleton]

lemma ofKeys_concat (keys : List String) (key : String) :
    ofKeys (keys ++ [key]) = (ofKeys keys).add key :=
  List.foldl_concat ..

/-- No key has two entries. -/
lemma nodup_ofKeys (keys : List String) : ((ofKeys keys).map Prod.fst).Nodup := by
  induction keys using List.reverseRecOn with
  | nil => exact List.nodup_nil
  | append_singleton keys key ih =>
    rw [ofKeys_concat]
    exact nodup_add ih

lemma mem_map_fst_ofKeys : k ∈ (ofKeys keys).map Prod.fst ↔ k ∈ keys := by
  induction keys using List.reverseRecOn with
  | nil => exact Iff.rfl
  | append_singleton keys key ih =>
    rw [ofKeys_concat, mem_add, ih, List.mem_append, List.mem_singleton]

lemma count_of_mem (h : (t.map Prod.fst).Nodup) (hmem : (k, n) ∈ t) : t.count k = n := by
  induction t with
  | nil => cases hmem
  | cons entry t ih =>
    obtain ⟨l, m⟩ := entry
    obtain ⟨hl, ht⟩ := List.nodup_cons.1 h
    rw [count_cons]
    rcases List.mem_cons.1 hmem with heq | hmem
    · obtain ⟨rfl, rfl⟩ := Prod.mk.inj heq
      rw [if_pos rfl]
    · have hkey : k ∈ t.map Prod.fst := List.mem_map_of_mem hmem
      have hne : k ≠ l := fun heq => hl (heq ▸ hkey)
      rw [if_neg hne]
      exact ih ht hmem

/-- The entry of a key says how often the key is given. -/
lemma eq_count_of_mem_ofKeys (h : (k, n) ∈ ofKeys keys) : n = keys.count k := by
  rw [← count_ofKeys, count_of_mem (nodup_ofKeys keys) h]

/-- The entries are the keys that are given, each with the number of its occurrences. -/
lemma mem_ofKeys_iff : (k, n) ∈ ofKeys keys ↔ k ∈ keys ∧ n = keys.count k := by
  constructor
  · intro h
    exact ⟨mem_map_fst_ofKeys.1 (List.mem_map_of_mem h), eq_count_of_mem_ofKeys h⟩
  · rintro ⟨hk, rfl⟩
    obtain ⟨⟨l, m⟩, hentry, rfl⟩ := List.mem_map.1 (mem_map_fst_ofKeys.2 hk)
    rwa [← eq_count_of_mem_ofKeys hentry]

/-- The order of the keys decides about the order of the entries only. -/
lemma ofKeys_perm {keys' : List String} (h : keys.Perm keys') :
    (ofKeys keys).Perm (ofKeys keys') := by
  refine (List.perm_ext_iff_of_nodup (nodup_ofKeys keys).of_map (nodup_ofKeys keys').of_map).2 ?_
  rintro ⟨k, n⟩
  rw [mem_ofKeys_iff, mem_ofKeys_iff, h.mem_iff, h.count_eq]

lemma ofKeys_eq_nil_iff : ofKeys keys = [] ↔ keys = [] := by
  rw [← List.map_eq_nil_iff (f := Prod.fst), List.eq_nil_iff_forall_not_mem,
    List.eq_nil_iff_forall_not_mem]
  exact forall_congr' fun k => not_congr mem_map_fst_ofKeys

lemma sum_filter_add (p : String → Bool) (t : Tally) (key : String) :
    (((t.add key).filter fun entry => p entry.1).map Prod.snd).sum
      = ((t.filter fun entry => p entry.1).map Prod.snd).sum + if p key then 1 else 0 := by
  induction t with
  | nil => cases hp : p key <;> simp [add, hp]
  | cons entry t ih =>
    obtain ⟨l, m⟩ := entry
    by_cases hl : l = key
    · subst hl
      cases hp : p l <;> simp [add, hp]
      omega
    · rw [add, if_neg hl]
      cases hp : p l <;> simp only [List.filter_cons, hp, if_true, Bool.false_eq_true, if_false,
        List.map_cons, List.sum_cons, ih]
      omega

/-- The entries of some of the keys count how often these are given. -/
lemma sum_filter_ofKeys (p : String → Bool) (keys : List String) :
    (((ofKeys keys).filter fun entry => p entry.1).map Prod.snd).sum = keys.countP p := by
  induction keys using List.reverseRecOn with
  | nil => rfl
  | append_singleton keys key ih =>
    rw [ofKeys_concat, sum_filter_add, ih, List.countP_append, List.countP_singleton]

end ApiSurvey.Grouping.Tally
