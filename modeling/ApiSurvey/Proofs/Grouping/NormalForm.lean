import ApiSurvey.Proofs.Grouping.Normalization
import ApiSurvey.Proofs.Text.Lowercase

/-!
# Keys are normal forms

What a normalizer makes of an atom is a normal form: the normalizer keeps it.  With blanks removed
and letters made small these are the trimmed texts without capitals, since making letters small
brings no blank to the ends of a trimmed text.  All keys of a breakdown are of this kind.
-/

namespace ApiSurvey

namespace Normalizer

/-- **The normal forms of `lowerTrim` are the trimmed texts without capitals.** -/
theorem apply_lowerTrim_eq_self_iff {s : String} : lowerTrim.apply s = s ↔
    Text.Trimmed s.toList ∧ ∀ c ∈ s.toList, Text.isCapital c = false := by
  rw [← String.toList_inj]
  simp only [apply, String.toList_ofList]
  constructor
  · intro h
    have htrimmed := (Text.trimmed_trim s.toList).lowercase
    rw [h] at htrimmed
    rw [Text.trim_eq_self_iff.2 htrimmed] at h
    exact ⟨htrimmed, Text.lowercase_eq_self_iff.1 h⟩
  · rintro ⟨htrimmed, hsmall⟩
    rw [Text.trim_eq_self_iff.2 htrimmed, Text.lowercase_eq_self_iff.2 hsmall]

lemma apply_apply (n : Normalizer) (s : String) : n.apply (n.apply s) = n.apply s := by
  cases n with
  | lowerTrim =>
    refine apply_lowerTrim_eq_self_iff.2 ?_
    simp only [apply, String.toList_ofList]
    exact ⟨(Text.trimmed_trim s.toList).lowercase, fun _ => Text.isCapital_of_mem_lowercaseAfter⟩
  | verbatim => rfl

end Normalizer

namespace Grouping

section

variable (items : List Json) (incomplete : Bool) (o : Options)

lemma apply_key_of_mem_groups {g : Group} (hg : g ∈ (breakdownItems items incomplete o).groups) :
    o.normalizer.apply g.key = g.key := by
  have hmerged := merged_breakdownItems items incomplete o o.normalizer
  obtain ⟨fine, -, hkey⟩ := (hmerged.mem_iff g.key).1 (List.mem_map_of_mem hg)
  rw [← hkey, Normalizer.apply_apply]

lemma top_breakdownItems : (breakdownItems items incomplete o).top
    = (breakdownItems items incomplete o).groups.take o.topN := by
  rw [breakdownItems_eq]
  cases o.candidates.find? (yields items) with
  | none =>
    rw [Option.elim_none, Breakdown.ungrouped]
    split <;> exact List.take_nil.symm
  | some c => rfl

end

/-- **Normalizing again changes nothing, so every key that a breakdown reports is kept by its
normalizer.** -/
theorem breakdown_keys_normal (n : Normalizer) :
    (∀ s, n.apply (n.apply s) = n.apply s)
      ∧ ∀ response o b, o.normalizer = n → breakdown response o = .ok b →
        (∀ g ∈ b.groups, n.apply g.key = g.key) ∧ ∀ g ∈ b.top, n.apply g.key = g.key := by
  refine ⟨n.apply_apply, ?_⟩
  rintro response o b rfl h
  obtain ⟨items, -, rfl⟩ := breakdown_eq_ok_iff.1 h
  refine ⟨fun g => apply_key_of_mem_groups items _ o, fun g hg => ?_⟩
  rw [top_breakdownItems] at hg
  exact apply_key_of_mem_groups items _ o (List.mem_of_mem_take hg)

/-! Two towns, one of them with a sigma at its end and one with a letter that is made two. -/

def towns : List Json := [tagged ["ΒΌΛΟΣ ", "βόλος"], tagged ["\u00A0İzmir"]]

theorem breakdown_keys_normal_towns :
    ∃ b, breakdown (.object [("items", .array towns)]) byTag = .ok b
      ∧ "βόλος" ∈ b.groups.map Group.key ∧ "i̇zmir" ∈ b.groups.map Group.key
      ∧ ∀ g ∈ b.groups, Normalizer.lowerTrim.apply g.key = g.key := by
  have hresolve : (Json.object [("items", .array towns)]).resolve? byTag.arrayPath
      = some (.array towns) := rfl
  obtain ⟨b, hok, hgroups⟩ : ∃ b, breakdown (.object [("items", .array towns)]) byTag = .ok b
      ∧ b.groups = (Attempt.run towns (.parse "tags[]") .lowerTrim).groups towns.length :=
    ⟨_, breakdown_eq_ok_iff.2 ⟨towns, hresolve, rfl⟩,
      (breakdownItems_of_pathUsed (by decide +kernel)).2.1⟩
  have hmem := (grouped_run towns (.parse "tags[]") .lowerTrim towns.length).mem_iff
  obtain ⟨-, hkeys⟩ := breakdown_keys_normal .lowerTrim
  refine ⟨b, hok, ?_, ?_, (hkeys _ byTag b rfl hok).1⟩
  · rw [hgroups, hmem]
    decide +kernel
  · rw [hgroups, hmem]
    decide +kernel

end Grouping

end ApiSurvey
