import ApiSurvey.Proofs.FieldPath.Replace
import ApiSurvey.Proofs.Grouping.Groups

/-!
# Reordering the items

The tally of an attempt does have the order in which its keys first appear, but its entries are the
same for every order of the items, and sorting leaves one order of them only.  Whether a path yields
an atom, and how many items are missing or have several, does not depend on the order either, and
the numbers that describe the page stand beside the list.
-/

namespace ApiSurvey.Grouping

section

variable {items items' : List Json}

lemma yields_congr_perm (h : items.Perm items') : yields items = yields items' :=
  funext fun _ => h.any_eq

lemma tally_run_perm (h : items.Perm items') (path : FieldPath) (normalizer : Normalizer) :
    (Attempt.run items path normalizer).tally.Perm
      (Attempt.run items' path normalizer).tally := by
  rw [tally_run, tally_run]
  exact Tally.ofKeys_perm ((h.flatMap_right path.atoms).map normalizer.apply)

/-- The groups of two tallies with the same entries are the same, in one order. -/
lemma groups_eq_of_perm {a b : Attempt} (hnodup : (a.tally.map Prod.fst).Nodup)
    (h : a.tally.Perm b.tally) (total : Nat) : a.groups total = b.groups total := by
  have hkeys : ((a.tally.map (Group.ofEntry total)).map Group.key).Nodup := by
    rwa [Group.map_key_ofEntry]
  -- groups that compare equal have one key, and no key has two groups
  have heq : ∀ g ∈ a.tally.map (Group.ofEntry total), ∀ g' ∈ a.tally.map (Group.ofEntry total),
      g.compare g' = .eq → g = g' := by
    intro g hg g' hg' heq
    by_contra hne
    refine Group.compare_ne_eq (fun hkey => hne ?_) heq
    exact List.inj_on_of_nodup_map hkeys hg hg' hkey
  have hsorted := mergeSort_eq_of_perm (h.map (Group.ofEntry total)) heq
  exact hsorted

/-- **The breakdown along a path does not depend on the order of the items.** -/
lemma along_congr_perm (h : items.Perm items') (incomplete : Bool) (o : Options) (path : String) :
    Breakdown.along items incomplete o path = Breakdown.along items' incomplete o path := by
  have hnodup : ((Attempt.run items (.parse path) o.normalizer).tally.map Prod.fst).Nodup := by
    rw [tally_run]
    exact Tally.nodup_ofKeys _
  have hgroups := groups_eq_of_perm hnodup (tally_run_perm h (.parse path) o.normalizer)
  have hatoms := h.map (FieldPath.parse path).atoms
  have hmissing : (Attempt.run items (.parse path) o.normalizer).missing
      = (Attempt.run items' (.parse path) o.normalizer).missing := hatoms.countP_eq _
  have hmulti : (Attempt.run items (.parse path) o.normalizer).multiValued
      = (Attempt.run items' (.parse path) o.normalizer).multiValued := hatoms.any_eq
  simp only [Breakdown.along, hgroups, hmissing, hmulti, h.length_eq]

lemma breakdownItems_congr_perm (h : items.Perm items') (incomplete : Bool) (o : Options) :
    breakdownItems items incomplete o = breakdownItems items' incomplete o := by
  rw [breakdownItems_eq, breakdownItems_eq, yields_congr_perm h]
  cases o.candidates.find? (yields items') with
  | none => simp only [Option.elim_none, Breakdown.ungrouped, h.length_eq]
  | some path => exact along_congr_perm h incomplete o path

/-- The numbers of a page are read beside the list that is grouped. -/
lemma ofResponse_replace {response : Json} {path : String}
    (h : response.resolve? path = some (.array items)) :
    Page.ofResponse (response.replace path (.array items')) = Page.ofResponse response := by
  have hnumber (key : String) (htokens : FieldPath.tokens key = [key])
      (hkey : ∀ xs, (Json.array xs).child? key = none) :
      ((response.replace path (.array items')).resolve? key).bind Json.double?
        = (response.resolve? key).bind Json.double? := by
    rw [Json.resolve?_of_tokens htokens, Json.resolve?_of_tokens htokens]
    exact Json.double?_child?_replaceAt hkey h
  simp only [Page.ofResponse, hnumber "count" (by decide) (fun _ => rfl),
    hnumber "offset" (by decide) (fun _ => rfl), hnumber "limit" (by decide) (fun _ => rfl)]

end

/-- **The breakdown of a response does not depend on the order of the items of its list.** -/
theorem breakdown_reordered {response : Json} {o : Options} {items items' : List Json}
    (hitems : response.resolve? o.arrayPath = some (.array items)) (hperm : items.Perm items') :
    ∃ b, breakdown response o = .ok b
      ∧ breakdown (response.replace o.arrayPath (.array items')) o = .ok b := by
  refine ⟨_, breakdown_eq_ok_iff.2 ⟨items, hitems, rfl⟩, breakdown_eq_ok_iff.2
    ⟨items', Json.resolve?_replace hitems, ?_⟩⟩
  rw [ofResponse_replace hitems, hperm.length_eq, breakdownItems_congr_perm hperm]

/-! A full page of tagged items, further down in the response, and the same page backwards. -/

def taggedPage (items : List Json) : Json :=
  .object [("limit", .ofNat 3), ("data", .object [("items", .array items)])]

def byTagOnPage : Options := { byTag with arrayPath := "data.items" }

theorem breakdown_reordered_backwards :
    (taggedPage taggedItems).resolve? byTagOnPage.arrayPath = some (.array taggedItems)
      ∧ taggedItems.Perm taggedItems.reverse
      ∧ ∃ b, breakdown (taggedPage taggedItems) byTagOnPage = .ok b
        ∧ breakdown (taggedPage taggedItems.reverse) byTagOnPage = .ok b := by
  have hresolve : (taggedPage taggedItems).resolve? byTagOnPage.arrayPath
      = some (.array taggedItems) := by decide +kernel
  have hperm : taggedItems.Perm taggedItems.reverse := (List.reverse_perm taggedItems).symm
  have hreplace : (taggedPage taggedItems).replace byTagOnPage.arrayPath
      (.array taggedItems.reverse) = taggedPage taggedItems.reverse := by decide +kernel
  obtain ⟨b, hok, hreordered⟩ := breakdown_reordered hresolve hperm
  exact ⟨hresolve, hperm, b, hok, hreplace ▸ hreordered⟩

end ApiSurvey.Grouping
