import ApiSurvey.Json.Pointer
import ApiSurvey.Text.Split
import Mathlib.Tactic.Common

/-!
# Pointer escapes as replacements

A name is written in a pointer by two replacements of a text by another, first of the tilde and then
of the slash, and it is read by two replacements in the opposite order.  Neither replacement makes
or breaks an occurrence of what the next one replaces, so that both ways one pass comes to the same.
-/

namespace ApiSurvey.Text

/-- The text with `new` in place of each occurrence of `first :: others`, from left to right and
without overlap. -/
def replaceAll (first : Char) (others new : List Char) : List Char → List Char
  | [] => []
  | c :: cs =>
    match _h : stripLead (first :: others) (c :: cs) with
    | some rest => new ++ replaceAll first others new rest
    | none => c :: replaceAll first others new cs
termination_by cs => cs.length
decreasing_by
  · have hlength := congrArg List.length (stripLead_eq_some_iff.1 _h)
    simp only [List.length_cons, List.length_append] at hlength ⊢
    omega
  · exact Nat.lt_succ_self _

variable {first c : Char} {others new cs : List Char}

@[simp] lemma replaceAll_nil : replaceAll first others new [] = [] := by
  rw [replaceAll]

/-- An occurrence at the beginning is replaced. -/
lemma replaceAll_append (first : Char) (others new cs : List Char) :
    replaceAll first others new (first :: (others ++ cs))
      = new ++ replaceAll first others new cs := by
  have hstrip : stripLead (first :: others) (first :: (others ++ cs)) = some cs :=
    stripLead_eq_some_iff.2 rfl
  rw [replaceAll]
  split
  · next rest hrest => rw [Option.some.inj (hrest.symm.trans hstrip)]
  · next hnone => rw [hstrip] at hnone; contradiction

/-- A character with which no occurrence begins stays. -/
lemma replaceAll_cons (h : ¬ first :: others <+: c :: cs) :
    replaceAll first others new (c :: cs) = c :: replaceAll first others new cs := by
  rw [replaceAll]
  split
  · next rest hrest => exact absurd ⟨rest, (stripLead_eq_some_iff.1 hrest).symm⟩ h
  · rfl

lemma replaceAll_cons_of_ne (h : c ≠ first) :
    replaceAll first others new (c :: cs) = c :: replaceAll first others new cs :=
  replaceAll_cons fun hprefix => h (List.cons_prefix_cons.1 hprefix).1.symm

end ApiSurvey.Text

namespace ApiSurvey.Json.Pointer

open Text

/-- A name with its tildes replaced, then its slashes. -/
def escapeInTurn (cs : List Char) : List Char :=
  replaceAll '/' [] ['~', '1'] (replaceAll '~' [] ['~', '0'] cs)

/-- A written name with its escaped slashes replaced, then its escaped tildes. -/
def unescapeInTurn (cs : List Char) : List Char :=
  replaceAll '~' ['0'] ['~'] (replaceAll '~' ['1'] ['/'] cs)

/-- **Writing a name in one pass is replacing its tildes and then its slashes.** -/
theorem escapeInTurn_eq (cs : List Char) : escapeInTurn cs = escape cs := by
  unfold escapeInTurn
  induction cs with
  | nil => simp [escape]
  | cons c cs ih =>
    rcases eq_or_ne c '~' with rfl | htilde
    · have hfirst : replaceAll '~' [] ['~', '0'] ('~' :: cs)
          = '~' :: '0' :: replaceAll '~' [] ['~', '0'] cs := replaceAll_append '~' [] ['~', '0'] cs
      rw [hfirst, replaceAll_cons_of_ne (by decide), replaceAll_cons_of_ne (by decide), ih]
      simp [escape]
    · rw [replaceAll_cons_of_ne htilde]
      rcases eq_or_ne c '/' with rfl | hslash
      · have hsecond : ∀ ds, replaceAll '/' [] ['~', '1'] ('/' :: ds)
            = '~' :: '1' :: replaceAll '/' [] ['~', '1'] ds := replaceAll_append '/' [] ['~', '1']
        rw [hsecond, ih]
        simp [escape]
      · rw [replaceAll_cons_of_ne hslash, ih]
        simp [escape, htilde, hslash]

/-- Replacing escaped slashes leaves a zero at the beginning only where there is one. -/
lemma head?_of_replaceAll_slashes {cs : List Char}
    (h : (replaceAll '~' ['1'] ['/'] cs).head? = some '0') : cs.head? = some '0' := by
  cases cs with
  | nil => simp at h
  | cons c cs =>
    by_cases hescape : ['~', '1'] <+: c :: cs
    · obtain ⟨rest, hrest⟩ := hescape
      rw [← hrest, show ['~', '1'] ++ rest = '~' :: (['1'] ++ rest) from rfl,
        replaceAll_append] at h
      simp at h
    · rw [replaceAll_cons hescape] at h
      exact h

/-- **Reading a name in one pass is replacing its escaped slashes and then its escaped tildes.** -/
theorem unescapeInTurn_eq (cs : List Char) : unescapeInTurn cs = unescape cs := by
  unfold unescapeInTurn
  fun_induction unescape cs with
  | case1 cs ih =>
    have hfirst : replaceAll '~' ['1'] ['/'] ('~' :: '1' :: cs)
        = '/' :: replaceAll '~' ['1'] ['/'] cs := replaceAll_append '~' ['1'] ['/'] cs
    rw [hfirst, replaceAll_cons_of_ne (by decide), ih]
  | case2 cs ih =>
    have hfirst : replaceAll '~' ['1'] ['/'] ('~' :: '0' :: cs)
        = '~' :: '0' :: replaceAll '~' ['1'] ['/'] cs := by
      rw [replaceAll_cons (by simp), replaceAll_cons_of_ne (by decide)]
    have hsecond : ∀ ds, replaceAll '~' ['0'] ['~'] ('~' :: '0' :: ds)
        = '~' :: replaceAll '~' ['0'] ['~'] ds := replaceAll_append '~' ['0'] ['~']
    rw [hfirst, hsecond, ih]
  | case3 c cs hslash htilde ih =>
    have hfirst : ¬ ['~', '1'] <+: c :: cs := by
      rintro ⟨rest, hrest⟩
      obtain ⟨rfl, hcs⟩ := List.cons.inj hrest
      exact hslash rest rfl hcs.symm
    -- an escaped tilde that begins here would have been there before
    have hsecond : ¬ ['~', '0'] <+: c :: replaceAll '~' ['1'] ['/'] cs := by
      rintro ⟨rest, hrest⟩
      obtain ⟨rfl, hreplaced⟩ := List.cons.inj hrest
      have hhead : (replaceAll '~' ['1'] ['/'] cs).head? = some '0' := by
        rw [← hreplaced]
        rfl
      obtain ⟨tail, rfl⟩ := List.head?_eq_some_iff.1 (head?_of_replaceAll_slashes hhead)
      exact htilde tail rfl rfl
    rw [replaceAll_cons hfirst, replaceAll_cons hsecond, ih]
  | case4 => simp

end ApiSurvey.Json.Pointer
