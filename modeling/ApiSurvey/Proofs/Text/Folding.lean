import ApiSurvey.Proofs.Text.Lowercase
import Mathlib.Data.List.Basic
import Mathlib.Data.List.Infix

/-!
# Folding against lowercasing

Folding takes more letters for one another than lowercasing does: the long s for an s, the sharp s
for two, the sigma at the end of a word for any other.  Such a letter is a variant.  Where a text
has no variant, and no capital sigma that lowercasing would make one, its lowercase form can be had
from its folding, so that all such texts with one folding have one lowercase form.  A folding never
has a variant itself, but it stands for texts that do if it has what a variant is folded to.
-/

namespace ApiSurvey.Text

/-- Lowercasing keeps the letter apart from those that folding takes it for. -/
def isVariant (c : Char) : Bool :=
  lowercaseChar c != (foldChar c).flatMap lowercaseChar

/-- Folding changes no more of the text than the case of its letters: none is a variant, and no
capital sigma becomes one. -/
structure CaseOnly (cs : List Char) : Prop where
  letters : ∀ c ∈ cs, isVariant c = false
  sigmas : ∀ before after, cs = before ++ 'Σ' :: after →
    (meetsCased before.reverse && !meetsCased after) = false

variable {before after cs cs' : List Char} {c d : Char}

lemma isVariant_eq_false_iff :
    isVariant c = false ↔ lowercaseChar c = (foldChar c).flatMap lowercaseChar :=
  bne_eq_false_iff_eq

lemma CaseOnly.of_notMem (h : cs.any isVariant = false) (hsigma : 'Σ' ∉ cs) : CaseOnly cs where
  letters c hc := Bool.eq_false_iff.2 (List.any_eq_false.1 h c hc)
  sigmas := by
    rintro before after rfl
    simp at hsigma

/-! ## Folded texts -/

/-- Folding makes neither what it would fold again nor blanks. -/
lemma imagesAvoid_fold : ImagesAvoid foldRuns foldExpansions
    (movedRuns foldRuns foldExpansions ++ blankRuns) := by
  constructor <;> decide +kernel

lemma foldChar_of_mem_foldChar (h : d ∈ foldChar c) : foldChar d = [d] :=
  mapCase_of_mem_mapCase imagesAvoid_fold (List.subset_append_left ..) h

lemma foldChar_of_mem_fold (h : d ∈ fold cs) : foldChar d = [d] := by
  obtain ⟨c, -, hd⟩ := List.mem_flatMap.1 h
  exact foldChar_of_mem_foldChar hd

lemma fold_eq_self (h : ∀ c ∈ cs, foldChar c = [c]) : fold cs = cs := by
  rw [fold, List.flatMap_congr h, List.flatMap_singleton']

/-- **Folding is done in one pass.** -/
theorem fold_fold (cs : List Char) : fold (fold cs) = fold cs :=
  fold_eq_self fun _ => foldChar_of_mem_fold

lemma isVariant_of_foldChar (h : foldChar c = [c]) : isVariant c = false := by
  rw [isVariant_eq_false_iff, h, List.flatMap_singleton]

lemma caseOnly_fold (cs : List Char) : CaseOnly (fold cs) := by
  refine .of_notMem (List.any_eq_false.2 fun c hc => ?_) fun hsigma => ?_
  · exact Bool.eq_false_iff.1 (isVariant_of_foldChar (foldChar_of_mem_fold hc))
  · exact absurd (foldChar_of_mem_fold hsigma) (by decide)

lemma foldChar_ne_nil : foldChar c ≠ [] :=
  mapCase_ne_nil (by decide) c

lemma isBlank_of_mem_foldChar (hc : isBlank c = false) (h : d ∈ foldChar c) :
    isBlank d = false := by
  rcases avoided_of_mem_mapCase imagesAvoid_fold h with ⟨rfl, -⟩ | havoided
  · exact hc
  · exact isBlank_eq_false_iff.2 fun run hrun => havoided run (List.mem_append_right _ hrun)

/-- **Folding a trimmed text leaves it trimmed.** -/
theorem Trimmed.fold (h : Trimmed cs) : Trimmed (fold cs) where
  head := by
    intro d hd
    cases cs with
    | nil => contradiction
    | cons c cs =>
      rw [Text.fold, List.flatMap_cons, List.head?_append_of_ne_nil _ foldChar_ne_nil] at hd
      exact isBlank_of_mem_foldChar (h.head c rfl) (List.mem_of_mem_head? hd)
  last := by
    intro d hd
    rcases List.eq_nil_or_concat cs with rfl | ⟨before, c, rfl⟩
    · contradiction
    · rw [List.concat_eq_append, Text.fold, List.flatMap_append, List.flatMap_singleton,
        List.getLast?_append_of_ne_nil _ foldChar_ne_nil] at hd
      exact isBlank_of_mem_foldChar (h.last c (by simp)) (List.mem_of_mem_getLast? hd)

/-! ## The lowercase form of a folding -/

/-- The code points that lowercasing moves, as bits. -/
def capitalBits : Nat :=
  bitsOf (movedRuns lowercaseRuns lowercaseExpansions)

lemma lowercaseChar_of_testBit (h : capitalBits.testBit c.toNat = false) :
    lowercaseChar c = [c] := by
  refine mapCase_eq_self fun run hrun => Bool.eq_false_iff.2 fun hcovers => ?_
  have hbit : capitalBits.testBit c.toNat = true := testBit_bitsOf hrun hcovers
  rw [h] at hbit
  cases hbit

/-- No expansion has a capital in it, and those that capitals have begin with other letters than the
small ones, or are what the capitals become in lowercase as well. -/
lemma foldExpansions_lowercase : ∀ expansion ∈ foldExpansions,
    (∀ code ∈ expansion.2, code.isValidChar ∧ capitalBits.testBit code = false)
      ∧ (capitalBits.testBit expansion.1 = false
        ∨ ((lowercaseChar (.ofNat expansion.1)).head? = (expansion.2.map Char.ofNat).head? →
          lowercaseChar (.ofNat expansion.1) = expansion.2.map Char.ofNat)) := by
  decide +kernel

/-- Only the capital I with a dot has a lowercase form of two characters. -/
lemma exists_lowercaseChar_eq (hc : c ≠ 'İ') : ∃ d, lowercaseChar c = [d] := by
  rcases mapCase_cases lowercaseRuns lowercaseExpansions c with h | ⟨codes, hcodes, -⟩
  · exact h
  · obtain ⟨hcode, -⟩ := Prod.mk.inj (List.mem_singleton.1 hcodes)
    refine absurd ?_ hc
    rw [← Char.ofNat_toNat c, hcode]

/-- A letter and the one letter that it is folded to are each one letter in lowercase. -/
lemma exists_lowercaseChar_eq_of_foldChar (h : foldChar c = [d]) :
    ∃ x y, lowercaseChar c = [x] ∧ (foldChar c).flatMap lowercaseChar = [y] := by
  have hdotted : ∀ e, foldChar 'İ' ≠ [e] := by
    intro e he
    have hlength : (foldChar 'İ').length = 2 := by decide
    rw [he] at hlength
    cases hlength
  have hself : foldChar d = [d] := foldChar_of_mem_foldChar (h ▸ List.mem_singleton_self d)
  obtain ⟨x, hx⟩ := exists_lowercaseChar_eq fun hc => hdotted d (hc ▸ h)
  obtain ⟨y, hy⟩ := exists_lowercaseChar_eq fun hd => hdotted d (hd ▸ hself)
  refine ⟨x, y, hx, ?_⟩
  rw [h, List.flatMap_singleton, hy]

/-- What folding makes of a letter that it expands is not changed by lowercasing. -/
lemma flatMap_lowercaseChar_expansion {codes : List Nat}
    (hcodes : (c.toNat, codes) ∈ foldExpansions) (h : foldChar c = codes.map Char.ofNat) :
    (foldChar c).flatMap lowercaseChar = foldChar c := by
  have hkept : ∀ d ∈ foldChar c, lowercaseChar d = [d] := by
    intro d hd
    rw [h] at hd
    obtain ⟨code, hcode, rfl⟩ := List.mem_map.1 hd
    obtain ⟨hvalid, hsmall⟩ := (foldExpansions_lowercase _ hcodes).1 code hcode
    refine lowercaseChar_of_testBit ?_
    rwa [toNat_ofNat hvalid]
  rw [List.flatMap_congr hkept, List.flatMap_singleton']

/-- A letter that begins in lowercase as its folding does is no variant. -/
lemma lowercaseChar_of_head?
    (h : (lowercaseChar c).head? = ((foldChar c).flatMap lowercaseChar).head?) :
    lowercaseChar c = (foldChar c).flatMap lowercaseChar := by
  rcases mapCase_cases foldRuns foldExpansions c with ⟨d, hd⟩ | ⟨codes, hcodes, hexpansion⟩
  · obtain ⟨x, y, hx, hy⟩ := exists_lowercaseChar_eq_of_foldChar hd
    rw [hx, hy] at h ⊢
    simpa using h
  · have hfold : foldChar c = codes.map Char.ofNat := hexpansion
    rw [flatMap_lowercaseChar_expansion hcodes hfold] at h ⊢
    rcases (foldExpansions_lowercase _ hcodes).2 with hunmoved | hheads
    · -- what folding makes is not folded again, and so does not begin with the letter
      have hlower : lowercaseChar c = [c] := lowercaseChar_of_testBit hunmoved
      rw [hlower] at h ⊢
      exact (foldChar_of_mem_foldChar (List.mem_of_mem_head? h.symm)).symm
    · rw [Char.ofNat_toNat, ← hfold] at hheads
      exact hheads h

lemma smallForm_eq_iff : smallForm before c after = (foldChar c).flatMap lowercaseChar
    ↔ isVariant c = false ∧ (c = 'Σ' → (meetsCased before && !meetsCased after) = false) := by
  by_cases hsigma : c = 'Σ'
  · subst hsigma
    have hsmall : (foldChar 'Σ').flatMap lowercaseChar = ['σ'] := by decide
    have hplain : isVariant 'Σ' = false := by decide
    rw [smallForm, if_pos rfl, hsmall]
    cases meetsCased before && !meetsCased after <;> simp [hplain]
  · rw [smallForm, if_neg hsigma, isVariant_eq_false_iff]
    exact ⟨fun h => ⟨h, fun heq => absurd heq hsigma⟩, And.left⟩

lemma smallForm_of_head?
    (h : (smallForm before c after).head? = ((foldChar c).flatMap lowercaseChar).head?) :
    smallForm before c after = (foldChar c).flatMap lowercaseChar := by
  by_cases hsigma : c = 'Σ'
  · subst hsigma
    have hsmall : (foldChar 'Σ').flatMap lowercaseChar = ['σ'] := by decide
    rw [smallForm, if_pos rfl, hsmall] at h ⊢
    simpa using h
  · rw [smallForm, if_neg hsigma] at h ⊢
    exact lowercaseChar_of_head? h

lemma flatMap_lowercaseChar_ne_nil (h : cs ≠ []) : cs.flatMap lowercaseChar ≠ [] := by
  obtain ⟨c, rest, rfl⟩ := List.exists_cons_of_ne_nil h
  rw [List.flatMap_cons]
  exact List.append_ne_nil_of_left_ne_nil (mapCase_ne_nil (by decide) c) _

/-- A text has the lowercase form of its folding just if each character is made small as its folding
is: where one is not, the two forms differ in their first letters from there on. -/
lemma lowercaseAfter_eq_iff : lowercaseAfter before cs = (fold cs).flatMap lowercaseChar
    ↔ ∀ done c after, cs = done ++ c :: after →
      smallForm (done.reverse ++ before) c after = (foldChar c).flatMap lowercaseChar := by
  induction cs generalizing before with
  | nil => simp [lowercaseAfter]
  | cons c cs ih =>
    have hfold : (fold (c :: cs)).flatMap lowercaseChar
        = (foldChar c).flatMap lowercaseChar ++ (fold cs).flatMap lowercaseChar := by
      rw [fold, List.flatMap_cons, List.flatMap_append, fold]
    rw [lowercaseAfter_cons, hfold]
    constructor
    · intro heq
      have hfirst : smallForm before c cs = (foldChar c).flatMap lowercaseChar := by
        refine smallForm_of_head? ?_
        rw [← List.head?_append_of_ne_nil _ smallForm_ne_nil, heq,
          List.head?_append_of_ne_nil _ (flatMap_lowercaseChar_ne_nil foldChar_ne_nil)]
      rw [hfirst] at heq
      have hrest := ih.1 (List.append_cancel_left heq)
      intro done d after hsplit
      cases done with
      | nil =>
        obtain ⟨rfl, rfl⟩ := List.cons.inj hsplit
        exact hfirst
      | cons e done =>
        obtain ⟨rfl, hcs⟩ := List.cons.inj hsplit
        rw [List.reverse_cons, List.append_assoc]
        exact hrest done d after hcs
    · intro h
      have hfirst : smallForm before c cs = (foldChar c).flatMap lowercaseChar := h [] c cs rfl
      rw [hfirst, ih.2]
      intro done d after hcs
      have hd := h (c :: done) d after (hcs ▸ rfl)
      rwa [List.reverse_cons, List.append_assoc] at hd

/-- **A text has the lowercase form of its folding just if folding it changes case only.** -/
theorem lowercase_eq_iff_caseOnly :
    lowercase cs = (fold cs).flatMap lowercaseChar ↔ CaseOnly cs := by
  rw [lowercase, lowercaseAfter_eq_iff]
  simp only [smallForm_eq_iff, List.append_nil]
  constructor
  · intro h
    constructor
    · intro c hc
      obtain ⟨before, after, hsplit⟩ := List.append_of_mem hc
      exact (h before c after hsplit).1
    · intro before after hsplit
      exact (h before 'Σ' after hsplit).2 rfl
  · rintro h before c after rfl
    exact ⟨h.letters c (by simp), fun hsigma => h.sigmas before after (hsigma ▸ rfl)⟩

/-! ## Texts with one folding -/

/-- Texts with one folding have one lowercase form, if folding them changes case only. -/
lemma lowercase_eq_of_fold_eq (h : CaseOnly cs) (h' : CaseOnly cs') (hfold : fold cs = fold cs') :
    lowercase cs = lowercase cs' := by
  rw [lowercase_eq_iff_caseOnly.2 h, lowercase_eq_iff_caseOnly.2 h', hfold]

lemma foldChar_of_isBlank (h : isBlank c = true) : foldChar c = [c] := by
  have hdisjoint : bitsOf (movedRuns foldRuns foldExpansions) &&& bitsOf blankRuns = 0 := by
    decide +kernel
  refine mapCase_eq_self fun run hrun => Bool.eq_false_iff.2 fun hcovers => ?_
  have hnot : isBlank c = false := isBlank_eq_false_iff.2 fun blank hblank =>
    covers_eq_false_of_disjoint hdisjoint hrun hblank hcovers
  rw [h] at hnot
  cases hnot

lemma isBlank_of_isVariant (h : isVariant c = true) : isBlank c = false := by
  refine Bool.eq_false_iff.2 fun hblank => ?_
  rw [isVariant_of_foldChar (foldChar_of_isBlank hblank)] at h
  contradiction

lemma foldChar_infix_fold (h : c ∈ cs) : foldChar c <:+: fold cs := by
  obtain ⟨before, after, rfl⟩ := List.append_of_mem h
  refine ⟨fold before, fold after, ?_⟩
  rw [fold_append, List.append_assoc]
  rfl

/-- In a folding, a part that a letter is folded to may be the folding of this letter. -/
lemma exists_of_foldChar_infix (hcs : Trimmed cs) (hc : isBlank c = false)
    (h : foldChar c <:+: fold cs) : ∃ cs', Trimmed cs' ∧ fold cs' = fold cs ∧ c ∈ cs' := by
  obtain ⟨before, after, hfold⟩ := h
  have hkept : ∀ d ∈ before ++ foldChar c ++ after, foldChar d = [d] :=
    fun d hd => foldChar_of_mem_fold (hfold ▸ hd)
  have hbefore : fold before = before :=
    fold_eq_self fun d hd => hkept d (List.mem_append_left _ (List.mem_append_left _ hd))
  have hafter : fold after = after :=
    fold_eq_self fun d hd => hkept d (List.mem_append_right _ hd)
  refine ⟨before ++ c :: after, (hfold ▸ hcs.fold).replace hc, ?_, by simp⟩
  rw [fold_append, hbefore, ← hfold, List.append_assoc]
  exact congrArg (fun cs => before ++ (foldChar c ++ cs)) hafter

lemma caseOnly_of_no_variant (h : ∀ c, isVariant c = true → ¬ foldChar c <:+: fold cs) :
    CaseOnly cs := by
  refine .of_notMem (List.any_eq_false.2 fun c hc hvariant => ?_) fun hsigma => ?_
  · exact h c hvariant (foldChar_infix_fold hc)
  · -- the sigma at the end of a word is folded as the capital is
    have hfinal : foldChar 'Σ' = foldChar 'ς' := by decide
    exact h 'ς' (by decide) (hfinal ▸ foldChar_infix_fold hsigma)

/-- **All texts with one folding have one lowercase form just if the folding has no part that a
variant is folded to.** -/
theorem forall_lowercase_eq_iff (hcs : Trimmed cs) :
    (∀ cs', Trimmed cs' → fold cs' = fold cs → lowercase cs' = lowercase cs)
      ↔ ∀ c, isVariant c = true → ¬ foldChar c <:+: fold cs := by
  constructor
  · intro h c hvariant hinfix
    obtain ⟨cs', htrimmed, hfold, hmem⟩ :=
      exists_of_foldChar_infix hcs (isBlank_of_isVariant hvariant) hinfix
    have hlower : lowercase cs' = lowercase (fold cs) :=
      (h cs' htrimmed hfold).trans (h _ hcs.fold (fold_fold cs)).symm
    rw [lowercase_eq_iff_caseOnly.2 (caseOnly_fold cs), fold_fold, ← hfold] at hlower
    rw [(lowercase_eq_iff_caseOnly.1 hlower).letters c hmem] at hvariant
    contradiction
  · intro h cs' _ hfold
    exact lowercase_eq_of_fold_eq (caseOnly_of_no_variant (hfold ▸ h)) (caseOnly_of_no_variant h)
      hfold

end ApiSurvey.Text
