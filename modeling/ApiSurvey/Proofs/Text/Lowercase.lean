import ApiSurvey.Proofs.Text.CaseImage
import ApiSurvey.Proofs.Text.Trim
import ApiSurvey.Text.Case

/-!
# Lowercase texts

A capital is a character that lowercasing replaces, and what stands in its place is neither a
capital nor blank.  So a text is lowercase if there is no capital in it: the context of a sigma,
which a second pass could see changed, has no say any more when the capital sigma is gone.  And the
ends of a trimmed text stay free of blanks.
-/

namespace ApiSurvey.Text

/-- Lowercasing replaces the character. -/
def isCapital (c : Char) : Bool :=
  lowercaseChar c != [c]

/-- What lowercasing puts in the place of a character between two texts, the one before it given
nearest character first. -/
def smallForm (before : List Char) (c : Char) (after : List Char) : List Char :=
  if c = 'Σ' then [if meetsCased before && !meetsCased after then 'ς' else 'σ'] else lowercaseChar c

/-- The blanks as runs. -/
def blankRuns : List CaseRun :=
  blanks.runs.map fun run => ⟨run.1, run.2, 1, 0⟩

variable {before after cs cs' : List Char} {c d : Char}

lemma isCapital_eq_false_iff : isCapital c = false ↔ lowercaseChar c = [c] :=
  bne_eq_false_iff_eq

lemma isBlank_eq_false_iff : isBlank c = false ↔ ∀ run ∈ blankRuns, run.covers c.toNat = false := by
  have hany : isBlank c = blankRuns.any (·.covers c.toNat) := by
    simp [isBlank, CharSet.contains, blankRuns, List.any_map, Function.comp_def, CaseRun.covers,
      Nat.mod_one]
  rw [hany, List.any_eq_false]
  simp only [Bool.not_eq_true]

/-- Lowercasing makes neither capitals nor blanks. -/
lemma imagesAvoid_lowercase : ImagesAvoid lowercaseRuns lowercaseExpansions
    (movedRuns lowercaseRuns lowercaseExpansions ++ blankRuns) := by
  constructor <;> decide +kernel

/-! ## The small form of a character -/

lemma smallForm_ne_nil : smallForm before c after ≠ [] := by
  unfold smallForm
  split
  · exact List.cons_ne_nil _ _
  · exact mapCase_ne_nil (by decide) c

lemma isCapital_of_mem_smallForm (h : d ∈ smallForm before c after) : isCapital d = false := by
  unfold smallForm at h
  split at h
  · -- neither small sigma is a capital
    obtain rfl := List.mem_singleton.1 h
    split <;> decide
  · exact isCapital_eq_false_iff.2
      (mapCase_of_mem_mapCase imagesAvoid_lowercase (List.subset_append_left ..) h)

lemma isBlank_of_mem_smallForm (hc : isBlank c = false) (h : d ∈ smallForm before c after) :
    isBlank d = false := by
  unfold smallForm at h
  split at h
  · obtain rfl := List.mem_singleton.1 h
    split <;> decide
  · rcases avoided_of_mem_mapCase imagesAvoid_lowercase h with ⟨rfl, -⟩ | havoided
    · exact hc
    · exact isBlank_eq_false_iff.2 fun run hrun => havoided run (List.mem_append_right _ hrun)

lemma smallForm_eq_self (hc : isCapital c = false) : smallForm before c after = [c] := by
  have hsigma : c ≠ 'Σ' := by
    rintro rfl
    exact absurd hc (by decide)
  rw [smallForm, if_neg hsigma]
  exact isCapital_eq_false_iff.1 hc

/-! ## The small form of a text -/

lemma lowercaseAfter_cons : lowercaseAfter before (c :: cs)
    = smallForm before c cs ++ lowercaseAfter (c :: before) cs :=
  rfl

/-- Up to its first capital a text is kept. -/
lemma lowercaseAfter_append (h : ∀ c ∈ cs, isCapital c = false) : lowercaseAfter before (cs ++ cs')
    = cs ++ lowercaseAfter (cs.reverse ++ before) cs' := by
  induction cs generalizing before with
  | nil => rfl
  | cons c cs ih =>
    obtain ⟨hc, hcs⟩ := List.forall_mem_cons.1 h
    rw [List.cons_append, lowercaseAfter_cons, smallForm_eq_self hc, ih hcs, List.reverse_cons,
      List.append_assoc]
    rfl

/-- Without a capital sigma the context has no say. -/
lemma lowercaseAfter_eq_flatMap (h : 'Σ' ∉ cs) :
    lowercaseAfter before cs = cs.flatMap lowercaseChar := by
  induction cs generalizing before with
  | nil => rfl
  | cons c cs ih =>
    rw [List.mem_cons, not_or] at h
    rw [lowercaseAfter_cons, smallForm, if_neg (Ne.symm h.1), ih h.2, List.flatMap_cons]

lemma isCapital_of_mem_lowercaseAfter (h : d ∈ lowercaseAfter before cs) :
    isCapital d = false := by
  induction cs generalizing before with
  | nil => contradiction
  | cons c cs ih =>
    rw [lowercaseAfter_cons, List.mem_append] at h
    exact h.elim isCapital_of_mem_smallForm ih

/-- A text is its own lowercase form if there is no capital in it. -/
theorem lowercase_eq_self_iff : lowercase cs = cs ↔ ∀ c ∈ cs, isCapital c = false := by
  constructor
  · intro h c hc
    rw [← h] at hc
    exact isCapital_of_mem_lowercaseAfter hc
  · intro h
    have hself : lowercaseAfter [] (cs ++ []) = cs ++ [] := lowercaseAfter_append h
    rwa [List.append_nil] at hself

lemma lowercaseAfter_ne_nil (h : cs ≠ []) : lowercaseAfter before cs ≠ [] := by
  cases cs with
  | nil => contradiction
  | cons c cs => exact List.append_ne_nil_of_left_ne_nil smallForm_ne_nil _

/-- The last character of a lowercase form comes from the last one of the text. -/
lemma mem_getLast?_lowercaseAfter (hd : d ∈ (lowercaseAfter before cs).getLast?) :
    ∃ c ∈ cs.getLast?, ∃ before after, d ∈ smallForm before c after := by
  induction cs generalizing before with
  | nil => contradiction
  | cons c cs ih =>
    rw [lowercaseAfter_cons] at hd
    rcases eq_or_ne cs [] with rfl | hne
    · rw [lowercaseAfter, List.append_nil] at hd
      exact ⟨c, rfl, before, [], List.mem_of_mem_getLast? hd⟩
    · rw [List.getLast?_append_of_ne_nil _ (lowercaseAfter_ne_nil hne)] at hd
      rw [List.getLast?_cons_of_ne_nil hne]
      exact ih hd

/-- **Lowercasing a trimmed text leaves it trimmed.** -/
theorem Trimmed.lowercase (h : Trimmed cs) : Trimmed (lowercase cs) where
  head := by
    intro d hd
    cases cs with
    | nil => contradiction
    | cons c cs =>
      rw [Text.lowercase, lowercaseAfter_cons, List.head?_append_of_ne_nil _ smallForm_ne_nil] at hd
      exact isBlank_of_mem_smallForm (h.head c rfl) (List.mem_of_mem_head? hd)
  last := by
    intro d hd
    obtain ⟨c, hc, before, after, hmem⟩ := mem_getLast?_lowercaseAfter hd
    exact isBlank_of_mem_smallForm (h.last c hc) hmem

end ApiSurvey.Text
