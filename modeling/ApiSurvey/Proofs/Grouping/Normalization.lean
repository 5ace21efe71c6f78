import ApiSurvey.Proofs.Grouping.Groups

/-!
# Changing the normalizer

A normalizer acts on the atoms of the items one by one, after they have been found.  So it has no
say in which path is used, nor in what is counted of the items themselves: the breakdowns under two
normalizers differ in their groups only.  And since the atoms as they are determine their normal
forms, the groups of the normal forms are those of the atoms put together.
-/

namespace ApiSurvey.Grouping

/-- The options with another normalizer. -/
def Options.normalizedBy (o : Options) (n : Normalizer) : Options :=
  { o with normalizer := n }

@[simp] lemma Options.arrayPath_normalizedBy (o : Options) (n : Normalizer) :
    (o.normalizedBy n).arrayPath = o.arrayPath := rfl

@[simp] lemma Options.candidates_normalizedBy (o : Options) (n : Normalizer) :
    (o.normalizedBy n).candidates = o.candidates := rfl

/-- All that a breakdown says apart from its groups. -/
def Breakdown.withoutGroups (b : Breakdown) : Breakdown :=
  { b with groups := [], top := [] }

/-- Some groups put together by a form of their keys: there is one group for each form, and it
counts what all groups of this form count. -/
structure Merged (form : String → String) (fine coarse : List Group) : Prop where
  nodup : (coarse.map Group.key).Nodup
  mem_iff : ∀ k, k ∈ coarse.map Group.key ↔ ∃ g ∈ fine, form g.key = k
  count : ∀ g ∈ coarse,
    g.count = ((fine.filter fun h => form h.key = g.key).map Group.count).sum

section

variable (items : List Json) (incomplete : Bool) (o : Options) (n m : Normalizer)

/-- The keys that items contribute are the normal forms of their atoms. -/
lemma contributedKeys_eq_map (path : FieldPath) :
    contributedKeys items path n = (contributedKeys items path .verbatim).map n.apply := by
  rw [contributedKeys, contributedKeys, List.map_map]
  rfl

/-- **The groups of an attempt are those of the atoms put together by their normal forms.** -/
lemma merged_run (path : FieldPath) (total : Nat) :
    Merged n.apply ((Attempt.run items path .verbatim).groups total)
      ((Attempt.run items path n).groups total) := by
  have hfine := grouped_run items path .verbatim total
  have hcoarse := grouped_run items path n total
  rw [contributedKeys_eq_map] at hcoarse
  refine ⟨hcoarse.nodup, fun k => ?_, fun g hg => ?_⟩
  · rw [hcoarse.mem_iff, List.mem_map]
    constructor
    · rintro ⟨atom, hatom, rfl⟩
      obtain ⟨g, hg, rfl⟩ := List.mem_map.1 ((hfine.mem_iff atom).2 hatom)
      exact ⟨g, hg, rfl⟩
    · rintro ⟨g, hg, rfl⟩
      exact ⟨g.key, (hfine.mem_iff g.key).1 (List.mem_map_of_mem hg), rfl⟩
  · have hsum := sum_count_groups_run items path .verbatim total fun k => n.apply k = g.key
    rw [hsum, hcoarse.count g hg, List.count, List.countP_map]
    rfl

-- One of the tags is written in three ways.
example :
    (Attempt.run taggedItems (.parse "tags[]") .verbatim).tally
        = [("New", 1), ("used", 1), ("new ", 1), ("new", 1)]
      ∧ (Attempt.run taggedItems (.parse "tags[]") .lowerTrim).tally
        = [("new", 3), ("used", 1)] := by
  decide +kernel

/-- A path is used whatever the normalizer, and all but the groups along it is the same. -/
lemma withoutGroups_breakdownItems :
    (breakdownItems items incomplete (o.normalizedBy n)).withoutGroups
      = (breakdownItems items incomplete (o.normalizedBy m)).withoutGroups := by
  rw [breakdownItems_eq, breakdownItems_eq, o.candidates_normalizedBy, o.candidates_normalizedBy]
  cases o.candidates.find? (yields items) with
  | none => rfl
  | some path => rfl

lemma merged_breakdownItems :
    Merged n.apply (breakdownItems items incomplete (o.normalizedBy .verbatim)).groups
      (breakdownItems items incomplete (o.normalizedBy n)).groups := by
  rw [breakdownItems_eq, breakdownItems_eq, o.candidates_normalizedBy, o.candidates_normalizedBy]
  cases o.candidates.find? (yields items) with
  | none =>
    rw [Option.elim_none, Option.elim_none, Breakdown.groups_ungrouped,
      Breakdown.groups_ungrouped]
    exact ⟨List.nodup_nil, by simp, by simp⟩
  | some path => exact merged_run items n (.parse path) items.length

end

/-- **Under another normalizer a breakdown says the same apart from its groups**, and the groups of
normal forms are those of the atoms put together. -/
theorem breakdown_normalizedBy (response : Json) (o : Options) :
    (∀ n m, (breakdown response (o.normalizedBy n)).map Breakdown.withoutGroups
        = (breakdown response (o.normalizedBy m)).map Breakdown.withoutGroups)
      ∧ ∀ n fine coarse, breakdown response (o.normalizedBy .verbatim) = .ok fine →
        breakdown response (o.normalizedBy n) = .ok coarse →
        Merged n.apply fine.groups coarse.groups := by
  constructor
  · intro n m
    rw [breakdown, breakdown, o.arrayPath_normalizedBy, o.arrayPath_normalizedBy]
    split
    · exact congrArg Except.ok (withoutGroups_breakdownItems ..)
    · rfl
  · intro n fine coarse hfine hcoarse
    obtain ⟨items, hitems, rfl⟩ := breakdown_eq_ok_iff.1 hfine
    obtain ⟨items', hitems', rfl⟩ := breakdown_eq_ok_iff.1 hcoarse
    obtain rfl : items = items' := Json.array.inj (Option.some.inj (hitems.symm.trans hitems'))
    exact merged_breakdownItems ..

end ApiSurvey.Grouping
