import ApiSurvey.Proofs.Grouping.Candidates
import ApiSurvey.Proofs.Grouping.Collation

/-!
# The groups of a breakdown

The groups of a breakdown are the entries of the tally of all keys that the items contribute, in
their strict order, so they are determined by how often each key is contributed.
-/

namespace ApiSurvey.Grouping

/-! ## The order of groups -/

/-- A group stands before another one: its count is greater, or the same with a lesser key. -/
def Group.Before (g h : Group) : Prop :=
  h.count < g.count ∨ g.count = h.count ∧ collate g.key h.key = .lt

/-- The comparison of groups by descending count, then by collation. -/
def Group.compare (g h : Group) : Ordering :=
  (Ord.compare h.count g.count).then (collate g.key h.key)

namespace Group

variable {g h : Group}

instance : Std.TransCmp (fun g h : Group => collate g.key h.key) where
  eq_swap := Std.OrientedCmp.eq_swap
  isLE_trans := Std.TransCmp.isLE_trans

instance : Std.TransCmp Group.compare :=
  inferInstanceAs (Std.TransCmp (compareLex (fun g h : Group => compareOn count h g)
    fun g h : Group => collate g.key h.key))

lemma before_iff : g.Before h ↔ g.compare h = .lt := by
  rw [Before, Group.compare, Ordering.then_eq_lt, Nat.compare_eq_lt, Nat.compare_eq_eq, eq_comm]

/-- Only groups of the same key compare equal. -/
lemma compare_ne_eq (hkey : g.key ≠ h.key) : g.compare h ≠ .eq := by
  intro heq
  rw [Group.compare, Ordering.then_eq_eq] at heq
  exact hkey (Std.LawfulEqCmp.eq_of_compare heq.2)

/-- The group of an entry of a tally, out of so many items. -/
def ofEntry (total : Nat) (entry : String × Nat) : Group :=
  ⟨entry.1, entry.2, Grouping.percent entry.2 total⟩

lemma map_key_ofEntry (total : Nat) (t : Tally) :
    (t.map (ofEntry total)).map key = t.map Prod.fst := by
  rw [List.map_map]
  rfl

end Group

/-- The groups of an attempt are those of the entries of its tally, in another order. -/
lemma groups_perm (a : Attempt) (total : Nat) :
    (a.groups total).Perm (a.tally.map (Group.ofEntry total)) :=
  List.mergeSort_perm ..

/-! ## Groups of keys -/

/-- The groups of a list of keys: one for each key, with the number of its occurrences, in strict
order. -/
structure Grouped (keys : List String) (groups : List Group) : Prop where
  nodup : (groups.map Group.key).Nodup
  mem_iff : ∀ k, k ∈ groups.map Group.key ↔ k ∈ keys
  count : ∀ g ∈ groups, g.count = keys.count g.key
  ordered : groups.Pairwise Group.Before

/-- **An attempt groups the keys that are contributed.** -/
lemma grouped_run (items : List Json) (path : FieldPath) (normalizer : Normalizer) (total : Nat) :
    Grouped (contributedKeys items path normalizer)
      ((Attempt.run items path normalizer).groups total) := by
  have hperm := groups_perm (Attempt.run items path normalizer) total
  have hkeys := hperm.map Group.key
  rw [Group.map_key_ofEntry, tally_run] at hkeys
  have hnodup := hkeys.nodup_iff.2 (Tally.nodup_ofKeys _)
  -- sorting changes nothing but the order, and distinct keys make the order strict
  refine ⟨hnodup, fun k => ?_, fun g hg => ?_, ?_⟩
  · rw [hkeys.mem_iff, Tally.mem_map_fst_ofKeys]
  · obtain ⟨⟨k, n⟩, hentry, rfl⟩ := List.mem_map.1 (hperm.mem_iff.1 hg)
    rw [tally_run] at hentry
    exact Tally.eq_count_of_mem_ofKeys hentry
  · have hdistinct := (hperm.map Group.key).nodup_iff.1 hnodup
    exact (pairwise_lt_mergeSort ((List.pairwise_map.1 hdistinct).imp Group.compare_ne_eq)).imp
      Group.before_iff.2

/-- The groups of some of the keys count how often these are contributed. -/
lemma sum_count_groups_run (items : List Json) (path : FieldPath) (normalizer : Normalizer)
    (total : Nat) (p : String → Bool) :
    ((((Attempt.run items path normalizer).groups total).filter fun g => p g.key).map
        Group.count).sum
      = (contributedKeys items path normalizer).countP p := by
  have hperm := groups_perm (Attempt.run items path normalizer) total
  have hsum := ((hperm.filter fun g => p g.key).map Group.count).sum_nat
  rw [hsum, List.filter_map, List.map_map, tally_run]
  exact Tally.sum_filter_ofKeys p _

/-! ## The groups of a response -/

/-- **The groups of a response count the atoms of its items by their normal form.** -/
theorem breakdown_groups {response : Json} {o : Options} {b : Breakdown} {c : String}
    (h : breakdown response o = .ok b) (hused : b.pathUsed = some c) :
    ∃ items, response.resolve? o.arrayPath = some (.array items) ∧ c ∈ o.candidates
      ∧ (b.groups.map Group.key).Nodup
      ∧ (∀ k, k ∈ b.groups.map Group.key ↔
          ∃ item ∈ items, ∃ atom ∈ (FieldPath.parse c).atoms item, o.normalizer.apply atom = k)
      ∧ (∀ g ∈ b.groups, g.count
          = (items.flatMap (FieldPath.parse c).atoms).countP (o.normalizer.apply · = g.key))
      ∧ b.groups.Pairwise Group.Before
      ∧ b.top = b.groups.take (min o.topN b.groups.length) := by
  obtain ⟨items, hitems, rfl⟩ := breakdown_eq_ok_iff.1 h
  obtain ⟨hmem, hgroups, htop⟩ := breakdownItems_of_pathUsed hused
  have hgrouped := grouped_run items (.parse c) o.normalizer items.length
  rw [← hgroups] at hgrouped
  refine ⟨items, hitems, hmem, hgrouped.nodup, fun k => ?_, fun g hg => ?_, hgrouped.ordered, ?_⟩
  · rw [hgrouped.mem_iff, contributedKeys, List.mem_map]
    constructor
    · rintro ⟨atom, hatom, rfl⟩
      obtain ⟨item, hitem, hatom⟩ := List.mem_flatMap.1 hatom
      exact ⟨item, hitem, atom, hatom, rfl⟩
    · rintro ⟨item, hitem, atom, hatom, rfl⟩
      exact ⟨atom, List.mem_flatMap.2 ⟨item, hitem, hatom⟩, rfl⟩
  · rw [hgrouped.count g hg, contributedKeys, List.count, List.countP_map]
    rfl
  · rw [htop]
    exact List.take_eq_take_min

/-! Items with tags, where one tag is written in several ways and twice in one item. -/

def tagged (tags : List String) : Json := .object [("tags", .array (tags.map .string))]

def taggedItems : List Json := [tagged ["New", "used"], tagged ["new ", "new"], .null]

def taggedResponse : Json := .object [("items", .array taggedItems)]

def byTag : Options := { Options.ofArrayPath "items" with groupByPath := some "tags[]" }

theorem breakdown_groups_byTag :
    ∃ b, breakdown taggedResponse byTag = .ok b ∧ b.pathUsed = some "tags[]"
      ∧ "new" ∈ b.groups.map Group.key ∧ ∀ g ∈ b.groups, g.key = "new" → g.count = 3 := by
  have hresolve : taggedResponse.resolve? byTag.arrayPath = some (.array taggedItems) := rfl
  have hok := breakdown_eq_ok_iff.2 ⟨taggedItems, hresolve, rfl⟩
  refine ⟨_, hok, rfl, ?_⟩
  obtain ⟨items, hitems, -, -, hmem, hcount, -⟩ := breakdown_groups hok rfl
  obtain rfl : taggedItems = items := Json.array.inj (Option.some.inj hitems)
  refine ⟨(hmem "new").2 ⟨tagged ["New", "used"], List.mem_cons_self, "New", ?_, ?_⟩, ?_⟩
  · decide +kernel
  · decide +kernel
  · intro g hg hkey
    rw [hcount g hg, hkey]
    decide +kernel

end ApiSurvey.Grouping
