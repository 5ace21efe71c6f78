import ApiSurvey.Proofs.Grouping.NormalForm
import ApiSurvey.Proofs.Text.Folding

/-!
# Groups and the case of letters

Keys are ordered by their foldings, but made by lowercasing.  Atoms that differ in the case of their
letters only fall into one group; atoms with one folding need not, if one of them has a letter that
lowercasing keeps apart from those that folding takes it for.
-/

namespace ApiSurvey

open Text

/-- The case folding of a text without the blanks at its ends. -/
def foldedTrim (s : String) : List Char :=
  fold (trim s.toList)

namespace Normalizer

variable {a b : String}

lemma apply_lowerTrim_eq_iff : lowerTrim.apply a = lowerTrim.apply b
    ↔ lowercase (trim a.toList) = lowercase (trim b.toList) :=
  String.ofList_inj

/-- Texts that differ in the case of letters and in blanks at their ends have one normal form. -/
lemma apply_lowerTrim_eq (ha : CaseOnly (trim a.toList)) (hb : CaseOnly (trim b.toList))
    (hfold : foldedTrim a = foldedTrim b) : lowerTrim.apply a = lowerTrim.apply b :=
  apply_lowerTrim_eq_iff.2 (lowercase_eq_of_fold_eq ha hb hfold)

/-- All texts with one folding have one normal form just if no variant is folded to a part of it. -/
lemma forall_apply_lowerTrim_eq_iff :
    (∀ b, foldedTrim b = foldedTrim a → lowerTrim.apply b = lowerTrim.apply a)
      ↔ ∀ c, isVariant c = true → ¬ foldChar c <:+: foldedTrim a := by
  rw [foldedTrim, ← forall_lowercase_eq_iff (trimmed_trim a.toList)]
  constructor
  · intro h cs hcs hfold
    have htrim : trim (String.ofList cs).toList = cs := by
      rw [String.toList_ofList, trim_eq_self_iff.2 hcs]
    have happly := h (.ofList cs) (by rw [foldedTrim, htrim, hfold])
    rwa [apply_lowerTrim_eq_iff, htrim] at happly
  · intro h b hfold
    exact apply_lowerTrim_eq_iff.2 (h _ (trimmed_trim b.toList) hfold)

end Normalizer

namespace Grouping

/-- Keys that lowercasing has made are equal if they differ in the case of letters only, so that
their groups are one. -/
lemma group_eq_of_fold_eq {items : List Json} {incomplete : Bool} {o : Options}
    (ho : o.normalizer = .lowerTrim) {g h : Group}
    (hg : g ∈ (breakdownItems items incomplete o).groups)
    (hh : h ∈ (breakdownItems items incomplete o).groups) (hcase : CaseOnly g.key.toList)
    (hcase' : CaseOnly h.key.toList) (hfold : fold g.key.toList = fold h.key.toList) : g = h := by
  have hnormal : ∀ k ∈ (breakdownItems items incomplete o).groups,
      Normalizer.lowerTrim.apply k.key = k.key :=
    fun k hk => ho ▸ apply_key_of_mem_groups items incomplete o hk
  have htrim : ∀ k ∈ (breakdownItems items incomplete o).groups, trim k.key.toList = k.key.toList :=
    fun k hk => trim_eq_self_iff.2 (Normalizer.apply_lowerTrim_eq_self_iff.1 (hnormal k hk)).1
  have hkeys : g.key = h.key := by
    rw [← hnormal g hg, ← hnormal h hh]
    refine Normalizer.apply_lowerTrim_eq ?_ ?_ ?_
    · rwa [htrim g hg]
    · rwa [htrim h hh]
    · rwa [foldedTrim, foldedTrim, htrim g hg, htrim h hh]
  exact List.inj_on_of_nodup_map (merged_breakdownItems items incomplete o o.normalizer).nodup hg hh
    hkeys

/-- **Atoms that differ in nothing but case and blanks at their ends make one key**, and no two
groups of a breakdown have keys that differ so.  Of the texts with a given folding all make one key
just if no part of the folding is the folding of a variant. -/
theorem lowerTrim_caseOnly (a : String) :
    (∀ b, CaseOnly (trim a.toList) → CaseOnly (trim b.toList) → foldedTrim a = foldedTrim b →
        Normalizer.lowerTrim.apply a = Normalizer.lowerTrim.apply b)
      ∧ ((∀ b, foldedTrim b = foldedTrim a →
          Normalizer.lowerTrim.apply b = Normalizer.lowerTrim.apply a)
        ↔ ∀ c, isVariant c = true → ¬ foldChar c <:+: foldedTrim a)
      ∧ ∀ response o b, o.normalizer = .lowerTrim → breakdown response o = .ok b →
        ∀ g ∈ b.groups, ∀ h ∈ b.groups, CaseOnly g.key.toList → CaseOnly h.key.toList →
          fold g.key.toList = foldedTrim a → fold h.key.toList = foldedTrim a → g = h := by
  refine ⟨fun b => Normalizer.apply_lowerTrim_eq, Normalizer.forall_apply_lowerTrim_eq_iff, ?_⟩
  intro response o b ho hok g hg h hh hcase hcase' hfold hfold'
  obtain ⟨items, -, rfl⟩ := breakdown_eq_ok_iff.1 hok
  exact group_eq_of_fold_eq ho hg hh hcase hcase' (hfold.trans hfold'.symm)

/-! A market written in two ways, and a street. -/

theorem lowerTrim_caseOnly_market :
    CaseOnly (trim " ΑΓΟΡΆ".toList) ∧ CaseOnly (trim "Αγορά\u00A0".toList)
      ∧ foldedTrim " ΑΓΟΡΆ" = foldedTrim "Αγορά\u00A0"
      ∧ Normalizer.lowerTrim.apply " ΑΓΟΡΆ" = Normalizer.lowerTrim.apply "Αγορά\u00A0" := by
  have hcapitals : CaseOnly (trim " ΑΓΟΡΆ".toList) :=
    .of_notMem (by decide +kernel) (by decide +kernel)
  have hsmall : CaseOnly (trim "Αγορά\u00A0".toList) :=
    .of_notMem (by decide +kernel) (by decide +kernel)
  have hfold : foldedTrim " ΑΓΟΡΆ" = foldedTrim "Αγορά\u00A0" := by decide +kernel
  exact ⟨hcapitals, hsmall, hfold, (lowerTrim_caseOnly _).1 _ hcapitals hsmall hfold⟩

/-- A street in capitals has the folding of the one with a sharp s, but falls into another group. -/
theorem apply_lowerTrim_street : foldedTrim "STRASSE" = foldedTrim "straße"
    ∧ Normalizer.lowerTrim.apply "STRASSE" ≠ Normalizer.lowerTrim.apply "straße"
    ∧ (Attempt.run [tagged ["STRASSE", "straße"]] (.parse "tags[]") .lowerTrim).tally
      = [("strasse", 1), ("straße", 1)] := by
  decide +kernel

end Grouping

end ApiSurvey
