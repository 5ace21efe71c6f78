import ApiSurvey.Proofs.Grouping.Groups

/-!
# What items contribute

An item without an atom is missing, an item with one atom contributes once, and every further atom
of an item is a surplus, even where it has the key of another one.  So the contributions and the
missing items together are as many as the items and the surplus: they cover the items, and are more
just if some item has several atoms.
-/

namespace ApiSurvey.Grouping

/-! ## The surplus of some lists -/

section

variable {α : Type}

/-- The number of elements beyond the first one of each list. -/
def surplus (lists : List (List α)) : Nat :=
  (lists.map fun l => l.length - 1).sum

lemma length_flatten_add_countP_isEmpty (lists : List (List α)) :
    lists.flatten.length + lists.countP List.isEmpty = lists.length + surplus lists := by
  induction lists with
  | nil => rfl
  | cons l lists ih =>
    have hsurplus : surplus (l :: lists) = l.length - 1 + surplus lists := rfl
    rw [List.flatten_cons, List.length_append, List.countP_cons, List.length_cons, hsurplus]
    cases l with
    | nil =>
      simp only [List.isEmpty_nil, if_true, List.length_nil]
      omega
    | cons a l =>
      simp only [List.isEmpty_cons, Bool.false_eq_true, if_false, List.length_cons]
      omega

lemma surplus_eq_zero_iff {lists : List (List α)} :
    surplus lists = 0 ↔ lists.any (1 < ·.length) = false := by
  simp [surplus, List.sum_eq_zero_iff_forall_eq_nat, Nat.sub_eq_zero_iff_le]

end

/-! ## Contributions -/

section

variable (items : List Json) (incomplete : Bool) (o : Options) (c : String)

lemma contributions_eq_sum (b : Breakdown) : b.contributions = (b.groups.map Group.count).sum := by
  rw [Breakdown.contributions, List.sum, List.foldr_map]

/-- Every atom of an item contributes to one group. -/
lemma contributions_along :
    (Breakdown.along items incomplete o c).contributions
      = (items.flatMap (FieldPath.parse c).atoms).length := by
  have hsum := sum_count_groups_run items (.parse c) o.normalizer items.length fun _ => true
  rw [List.filter_true, List.countP_true, contributedKeys, List.length_map] at hsum
  rw [contributions_eq_sum, Breakdown.along, hsum]

lemma missing_along :
    (Breakdown.along items incomplete o c).missing
      = items.countP fun item => ((FieldPath.parse c).atoms item).isEmpty :=
  List.countP_map ..

/-- **The contributions and the missing items are the items and their surplus.** -/
lemma contributions_add_missing_along :
    (Breakdown.along items incomplete o c).contributions
        + (Breakdown.along items incomplete o c).missing
      = items.length + surplus (items.map (FieldPath.parse c).atoms) := by
  have h := length_flatten_add_countP_isEmpty (items.map (FieldPath.parse c).atoms)
  rwa [List.length_map, ← List.flatMap_def, ← contributions_along items incomplete o] at h

lemma multiValued_along :
    (Breakdown.along items incomplete o c).multiValued = false
      ↔ surplus (items.map (FieldPath.parse c).atoms) = 0 :=
  surplus_eq_zero_iff.symm

end

/-- **Contributions and missing items cover the items of a response**, and are more than the items
just if some item has several keys. -/
theorem breakdown_contributions {response : Json} {o : Options} {b : Breakdown} {c : String}
    (h : breakdown response o = .ok b) (hused : b.pathUsed = some c) :
    ∃ items, response.resolve? o.arrayPath = some (.array items)
      ∧ b.total = items.length
      ∧ b.missing = items.countP (fun item => ((FieldPath.parse c).atoms item).isEmpty)
      ∧ b.contributions = (items.flatMap (FieldPath.parse c).atoms).length
      ∧ b.total ≤ b.contributions + b.missing
      ∧ (b.contributions + b.missing = b.total ↔ b.multiValued = false) := by
  obtain ⟨items, hitems, rfl⟩ := breakdown_eq_ok_iff.1 h
  rw [breakdownItems_eq_along hused]
  generalize (Page.ofResponse response).isIncomplete items.length = incomplete
  have htotal : (Breakdown.along items incomplete o c).total = items.length := rfl
  refine ⟨items, hitems, htotal, missing_along .., contributions_along .., ?_, ?_⟩
  · rw [contributions_add_missing_along, htotal]
    omega
  · rw [contributions_add_missing_along, htotal, multiValued_along]
    omega

theorem breakdown_contributions_byTag :
    ∃ b, breakdown taggedResponse byTag = .ok b ∧ b.pathUsed = some "tags[]"
      ∧ b.total = 3 ∧ b.missing = 1 ∧ b.contributions = 4 ∧ b.multiValued = true := by
  have hresolve : taggedResponse.resolve? byTag.arrayPath = some (.array taggedItems) := rfl
  obtain ⟨b, hok, hused⟩ :
      ∃ b, breakdown taggedResponse byTag = .ok b ∧ b.pathUsed = some "tags[]" :=
    ⟨_, breakdown_eq_ok_iff.2 ⟨taggedItems, hresolve, rfl⟩, rfl⟩
  obtain ⟨items, hitems, htotal, hmissing, hcontributions, -, hequal⟩ :=
    breakdown_contributions hok hused
  obtain rfl : taggedItems = items := Json.array.inj (Option.some.inj hitems)
  have hone : b.missing = 1 := hmissing.trans (by decide +kernel)
  have hfour : b.contributions = 4 := hcontributions.trans (by decide +kernel)
  have hthree : b.total = 3 := htotal
  refine ⟨b, hok, hused, hthree, hone, hfour, ?_⟩
  -- four contributions and a missing item are more than three items
  rw [hfour, hone, hthree] at hequal
  simpa using hequal.not.1 (by decide)

end ApiSurvey.Grouping
