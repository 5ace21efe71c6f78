import ApiSurvey.Proofs.Json.Inside
import Mathlib.Data.List.Perm.Subperm

/-!
# Objects with distinct keys

In a value as it is read no object has a key twice.  Among such values equality as data is
symmetric: it is stated from the left, each member there having an equal one on the right, but as
many members with the same distinct keys leave none on the right without an equal one.
-/

namespace ApiSurvey.Json

/-- No object in the value has a key twice. -/
def DistinctKeys (v : Json) : Prop :=
  ∀ members, object members ∈ v :: v.inside → (members.map Prod.fst).Nodup

instance (v : Json) : Decidable v.DistinctKeys :=
  decidable_of_iff
    (∀ u ∈ v :: v.inside, ∀ members ∈ u.members?, (members.map Prod.fst).Nodup) <| by
      simp only [DistinctKeys, Option.mem_def, members?_eq_some_iff]
      exact ⟨fun h members hmembers => h _ hmembers members rfl,
        fun h u hu members hmembers => h members (hmembers ▸ hu)⟩

lemma DistinctKeys.of_inside {v w : Json} (h : v.DistinctKeys) (hw : w ∈ v.inside) :
    w.DistinctKeys := by
  intro members hmembers
  refine h members (List.mem_cons_of_mem v ?_)
  rcases List.mem_cons.1 hmembers with rfl | hmembers
  · exact hw
  · exact mem_inside_trans hmembers hw

/-- With distinct keys, every entry is the one that is found under its key. -/
lemma lookup_of_mem {β : Type} {entries : List (String × β)} {key : String} {b : β}
    (h : (entries.map Prod.fst).Nodup) (hmem : (key, b) ∈ entries) :
    entries.lookup key = some b := by
  induction entries with
  | nil => cases hmem
  | cons entry entries ih =>
    obtain ⟨k, c⟩ := entry
    obtain ⟨hk, hentries⟩ := List.nodup_cons.1 h
    rw [lookup_cons]
    rcases List.mem_cons.1 hmem with heq | hmem
    · obtain ⟨rfl, rfl⟩ := Prod.mk.inj heq
      rw [if_pos rfl]
    · have hkey : key ∈ entries.map Prod.fst := List.mem_map_of_mem hmem
      have hne : key ≠ k := fun heq => hk (heq ▸ hkey)
      rw [if_neg hne]
      exact ih hentries hmem

lemma sameMembers_iff {ms ns : Members} : sameMembers ms ns = true ↔
    ∀ key v, (key, v) ∈ ms → ∃ w, ns.lookup key = some w ∧ same v w = true := by
  induction ms with
  | nil => simp [sameMembers]
  | cons entry ms ih =>
    obtain ⟨k, u⟩ := entry
    simp only [sameMembers, Bool.and_eq_true, ih, List.mem_cons, Prod.mk.injEq]
    constructor
    · rintro ⟨hu, hms⟩ key v (⟨rfl, rfl⟩ | hv)
      · cases hw : ns.lookup key with
        | none => simp [hw] at hu
        | some w => exact ⟨w, rfl, by simpa [hw] using hu⟩
      · exact hms key v hv
    · intro h
      obtain ⟨w, hw, hsame⟩ := h k u (Or.inl ⟨rfl, rfl⟩)
      exact ⟨by simpa [hw] using hsame, fun key v hv => h key v (Or.inr hv)⟩

/-- The right members have the keys of the left ones, if they are as many. -/
lemma perm_keys_of_sameMembers {ms ns : Members} (hms : (ms.map Prod.fst).Nodup)
    (hlength : ms.length = ns.length) (h : sameMembers ms ns = true) :
    (ms.map Prod.fst).Perm (ns.map Prod.fst) := by
  have hsubset : ms.map Prod.fst ⊆ ns.map Prod.fst := by
    intro key hkey
    obtain ⟨⟨k, v⟩, hv, rfl⟩ := List.mem_map.1 hkey
    obtain ⟨w, hw, -⟩ := sameMembers_iff.1 h k v hv
    obtain ⟨before, after, rfl, -⟩ := List.lookup_eq_some_iff.1 hw
    simp
  have hle : (ns.map Prod.fst).length ≤ (ms.map Prod.fst).length := by simp [hlength]
  exact (hms.subperm hsubset).perm_of_length_le hle

lemma sameItems_symm {us vs : List Json}
    (hsymm : ∀ u ∈ us, ∀ v ∈ vs, same u v = true → same v u = true)
    (h : sameItems us vs = true) : sameItems vs us = true := by
  induction us generalizing vs with
  | nil => cases vs <;> simp_all [sameItems]
  | cons u us ih =>
    cases vs with
    | nil => simp [sameItems] at h
    | cons v vs =>
      simp only [sameItems, Bool.and_eq_true] at h ⊢
      have hhead : same v u = true := hsymm u List.mem_cons_self v List.mem_cons_self h.1
      have htail : sameItems vs us = true := ih (fun u' hu' v' hv' =>
        hsymm u' (List.mem_cons_of_mem u hu') v' (List.mem_cons_of_mem v hv')) h.2
      exact ⟨hhead, htail⟩

lemma sameMembers_symm {ms ns : Members} (hms : (ms.map Prod.fst).Nodup)
    (hns : (ns.map Prod.fst).Nodup) (hlength : ms.length = ns.length)
    (hsymm : ∀ k v, (k, v) ∈ ms → ∀ l w, (l, w) ∈ ns → same v w = true → same w v = true)
    (h : sameMembers ms ns = true) : sameMembers ns ms = true := by
  refine sameMembers_iff.2 fun key w hw => ?_
  have hkey : key ∈ ms.map Prod.fst :=
    (perm_keys_of_sameMembers hms hlength h).mem_iff.2 (List.mem_map_of_mem hw)
  obtain ⟨⟨k, v⟩, hv, rfl⟩ := List.mem_map.1 hkey
  -- the member on the right that equals this one is the one with its key
  obtain ⟨w', hw', hsame⟩ := sameMembers_iff.1 h k v hv
  obtain rfl : w = w' := Option.some.inj ((lookup_of_mem hns hw).symm.trans hw')
  exact ⟨v, lookup_of_mem hms hv, hsymm k v hv k w hw hsame⟩

/-- **Equality as data is symmetric** among values with distinct keys. -/
theorem same_symm {v w : Json} (hv : v.DistinctKeys) (hw : w.DistinctKeys)
    (h : same v w = true) : same w v = true := by
  -- by induction on how much is inside the left value
  induction hn : v.inside.length using Nat.strongRecOn generalizing v w with
  | ind n ih =>
    subst hn
    have hinside : ∀ v' ∈ v.inside, ∀ w' ∈ w.inside, same v' w' = true → same w' v' = true :=
      fun v' hv' w' hw' hsame =>
        ih _ (length_inside_lt hv') (hv.of_inside hv') (hw.of_inside hw') hsame rfl
    cases v with
    | array us =>
      cases w with
      | array vs =>
        exact sameItems_symm
          (fun u hu v hv => hinside u (mem_inside_array hu) v (mem_inside_array hv)) h
      | _ => simp [same] at h
    | object ms =>
      cases w with
      | object ns =>
        simp only [same, Bool.and_eq_true, beq_iff_eq] at h ⊢
        exact ⟨h.1.symm, sameMembers_symm (hv ms List.mem_cons_self) (hw ns List.mem_cons_self) h.1
          (fun k v hv l w hw => hinside v (mem_inside_object hv) w (mem_inside_object hw)) h.2⟩
      | _ => simp [same] at h
    | number a =>
      cases w with
      | number b => cases a <;> cases b <;> simp_all [same, Number.same, Binary64.sameValue_iff]
      | _ => simp [same] at h
    | null | bool a | string a => cases w <;> simp_all [same]

end ApiSurvey.Json
