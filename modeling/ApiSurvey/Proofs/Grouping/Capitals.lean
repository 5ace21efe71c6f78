import ApiSurvey.Proofs.Grouping.Collation
import ApiSurvey.Proofs.Text.Ascii

/-!
# Capitals in the order of collation

Of two keys with one folding the one that is greater as a text comes first.  A key and its lowercase
form are alike up to the first capital of the key, so this capital decides between them: the
lowercase form comes first just when the small letter has the greater code point.  So it is with the
letters of ASCII, but not with all: the Greek capitals with a breathing, for one, have greater code
points than their small letters.
-/

namespace ApiSurvey

open Std (OrientedCmp)

namespace Text

/-- The character that the small form of a character begins with. -/
def smallLetter (c : Char) : Char :=
  (lowercaseChar c).headD c

variable {before cs after a b : List Char} {c : Char}

lemma compare_append_left : compare (cs ++ a) (cs ++ b) = compare a b := by
  induction cs with
  | nil => rfl
  | cons c cs ih =>
    rw [List.cons_append, List.cons_append, List.compare_cons_cons, ih, Std.ReflOrd.compare_self]
    rfl

/-- A small sigma of either kind is to the capital one as the other. -/
lemma exists_smallForm_eq_cons (before : List Char) (c : Char) (after : List Char) :
    ∃ d rest, smallForm before c after = d :: rest
      ∧ compare c d = compare c (smallLetter c) := by
  by_cases hsigma : c = 'Σ'
  · subst hsigma
    refine ⟨_, [], if_pos rfl, ?_⟩
    split <;> decide
  · have hne : smallForm before c after ≠ [] := smallForm_ne_nil
    obtain ⟨d, rest, hform⟩ := List.exists_cons_of_ne_nil hne
    have hlower : lowercaseChar c = d :: rest := by
      rwa [smallForm, if_neg hsigma] at hform
    refine ⟨d, rest, hform, ?_⟩
    rw [smallLetter, hlower]
    rfl

/-- A text compares with its lowercase form as its first capital does with the small letter. -/
lemma compare_lowercase (hcs : ∀ c ∈ cs, isCapital c = false) (hc : isCapital c = true) :
    compare (cs ++ c :: after) (lowercase (cs ++ c :: after)) = compare c (smallLetter c) := by
  obtain ⟨d, rest, hform, hcompare⟩ := exists_smallForm_eq_cons (cs.reverse ++ []) c after
  have hd : isCapital d = false :=
    isCapital_of_mem_smallForm (hform ▸ List.mem_cons_self)
  have hne : compare c d ≠ .eq := by
    intro heq
    obtain rfl : c = d := Std.LawfulEqOrd.eq_of_compare heq
    rw [hc] at hd
    contradiction
  rw [lowercase, lowercaseAfter_append hcs, compare_append_left, lowercaseAfter_cons, hform,
    List.cons_append, List.compare_cons_cons, ← hcompare]
  cases h : compare c d with
  | lt => rfl
  | eq => contradiction
  | gt => rfl

/-! ## ASCII letters -/

/-- Folding moves none of the small letters. -/
lemma foldRuns_avoid_small :
    bitsOf [asciiCapitals.image] &&& bitsOf (movedRuns foldRuns foldExpansions) = 0 := by
  decide +kernel

section

variable (h : asciiCapitals.covers c.toNat = true)

include h

/-- Folding makes the same of a capital as lowercasing, and keeps what it has made. -/
lemma fold_lowercaseChar_of_covers : fold (lowercaseChar c) = foldChar c := by
  have hfold : foldChar c = [.ofNat (asciiCapitals.target c.toNat)] := mapCase_cons h
  have hkept : foldChar (.ofNat (asciiCapitals.target c.toNat))
      = [.ofNat (asciiCapitals.target c.toNat)] := by
    refine mapCase_eq_self fun run hrun => ?_
    rw [toNat_asciiSmall h]
    exact covers_eq_false_of_disjoint foldRuns_avoid_small List.mem_cons_self hrun
      (CaseRun.covers_target (by decide) h)
  rw [lowercaseChar_ascii h, hfold, fold, List.flatMap_singleton, hkept]

lemma lt_smallLetter_of_covers : c < smallLetter c := by
  have hlt : c.toNat < asciiCapitals.target c.toNat := by
    simp only [CaseRun.target, asciiCapitals]
    omega
  rw [← toNat_asciiSmall h] at hlt
  rw [smallLetter, lowercaseChar_ascii h]
  exact hlt

end

lemma fold_lowercaseChar_ascii (h : c.toNat < 128) : fold (lowercaseChar c) = foldChar c := by
  cases hc : isCapital c with
  | false =>
    rw [isCapital_eq_false_iff.1 hc]
    exact List.flatMap_singleton foldChar c
  | true => exact fold_lowercaseChar_of_covers (covers_of_isCapital h hc)

lemma fold_lowercase_ascii (h : ∀ c ∈ cs, c.toNat < 128) : fold (lowercase cs) = fold cs := by
  have hsigma : 'Σ' ∉ cs := fun hmem => absurd (h _ hmem) (by decide)
  rw [lowercase, lowercaseAfter_eq_flatMap hsigma, fold, fold, List.flatMap_assoc]
  exact List.flatMap_congr fun c hc => fold_lowercaseChar_ascii (h c hc)

end Text

/-! ## Keys and their lowercase forms -/

section

variable {b : String}

lemma exists_collate_lowercase_eq (hne : Text.lowercase b.toList ≠ b.toList)
    (hfold : Text.fold (Text.lowercase b.toList) = Text.fold b.toList) :
    ∃ c, b.toList.find? Text.isCapital = some c
      ∧ collate (.ofList (Text.lowercase b.toList)) b = compare c (Text.smallLetter c) := by
  cases hfind : b.toList.find? Text.isCapital with
  | none =>
    refine absurd (Text.lowercase_eq_self_iff.2 fun c hc => ?_) hne
    exact Bool.eq_false_iff.2 (List.find?_eq_none.1 hfind c hc)
  | some c =>
    obtain ⟨hc, cs, after, hb, hcs⟩ := List.find?_eq_some_iff_append.1 hfind
    refine ⟨c, rfl, ?_⟩
    rw [collate, collateBy, String.toList_ofList, hfold, Std.ReflOrd.compare_self, hb]
    exact Text.compare_lowercase (fun d hd => by simpa using hcs d hd) hc

/-- **The first capital of a key decides whether its lowercase form comes before it.** -/
theorem collate_lowercase_iff (hne : Text.lowercase b.toList ≠ b.toList)
    (hfold : Text.fold (Text.lowercase b.toList) = Text.fold b.toList) :
    ∃ c, b.toList.find? Text.isCapital = some c
      ∧ (collate (.ofList (Text.lowercase b.toList)) b = .lt ↔ c < Text.smallLetter c)
      ∧ (collate (.ofList (Text.lowercase b.toList)) b = .gt ↔ Text.smallLetter c < c) := by
  obtain ⟨c, hfind, hcollate⟩ := exists_collate_lowercase_eq hne hfold
  refine ⟨c, hfind, ?_, ?_⟩
  · rw [hcollate]
    exact compareOfLessAndEq_eq_lt
  · rw [hcollate, OrientedCmp.gt_iff_lt]
    exact compareOfLessAndEq_eq_lt

theorem collate_lowercase_iff_ada :
    Text.lowercase "Ada".toList = "ada".toList ∧ collate "ada" "Ada" = .lt := by
  have hlower : Text.lowercase "Ada".toList = "ada".toList := by decide
  have hne : Text.lowercase "Ada".toList ≠ "Ada".toList := by decide
  have hfold : Text.fold (Text.lowercase "Ada".toList) = Text.fold "Ada".toList := by decide
  obtain ⟨c, hfind, hlt, -⟩ := collate_lowercase_iff hne hfold
  obtain rfl : 'A' = c := Option.some.inj (Eq.trans (by decide) hfind)
  rw [hlower, String.ofList_toList] at hlt
  exact ⟨hlower, hlt.2 (by decide)⟩

/-- A name in Greek comes before its lowercase form, since the capital with a breathing does. -/
theorem collate_lowercase_hera : Text.lowercase "Ἥρα".toList = "ἥρα".toList
    ∧ "ἥρα" ≠ "Ἥρα"
    ∧ Text.fold "ἥρα".toList = Text.fold "Ἥρα".toList
    ∧ collate "ἥρα" "Ἥρα" = .gt := by
  decide

/-- **With ASCII letters the lowercase form of a key comes before the key.** -/
theorem collate_lowercase_ascii (hascii : ∀ c ∈ b.toList, c.toNat < 128)
    (hne : Text.lowercase b.toList ≠ b.toList) :
    collate (.ofList (Text.lowercase b.toList)) b = .lt := by
  obtain ⟨c, hfind, hcollate⟩ :=
    exists_collate_lowercase_eq hne (Text.fold_lowercase_ascii hascii)
  have hc : c.toNat < 128 := hascii c (List.mem_of_find?_eq_some hfind)
  have hlt := Text.lt_smallLetter_of_covers (Text.covers_of_isCapital hc (List.find?_some hfind))
  rw [hcollate]
  exact compareOfLessAndEq_eq_lt.2 hlt

end

end ApiSurvey
