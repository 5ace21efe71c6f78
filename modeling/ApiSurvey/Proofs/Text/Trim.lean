import ApiSurvey.Text.Blank
import Mathlib.Data.List.DropRight
import Mathlib.Tactic.Common

/-!
# Trimmed texts

A text is trimmed if there is no blank at either end of it.  Every text is a trimmed one with blanks
before and after it, and trimming finds that one: however the blanks at the ends are written off,
what is left is the same if only it is trimmed.
-/

namespace ApiSurvey.Text

/-- The text neither begins nor ends with a blank. -/
structure Trimmed (cs : List Char) : Prop where
  head : ∀ c ∈ cs.head?, isBlank c = false
  last : ∀ c ∈ cs.getLast?, isBlank c = false

variable {before cs after : List Char}

/-- No blank is in a range of code points that none of the runs of blanks meets. -/
lemma isBlank_of_range {c : Char} (h : 34 ≤ c.toNat ∧ c.toNat ≤ 122) : isBlank c = false := by
  rw [Bool.eq_false_iff]
  intro hblank
  obtain ⟨run, hrun, hlow, hhigh⟩ := CharSet.contains_iff.1 hblank
  simp only [blanks, List.mem_cons, List.not_mem_nil, or_false] at hrun
  rcases hrun with rfl | rfl | rfl | rfl | rfl | rfl | rfl | rfl | rfl | rfl <;> omega

lemma allBlank_iff : allBlank cs = true ↔ ∀ c ∈ cs, isBlank c = true :=
  List.all_eq_true

/-! ## One end at a time -/

lemma trimStart_append (h : allBlank before = true) : trimStart (before ++ cs) = trimStart cs :=
  List.dropWhile_append_of_pos (allBlank_iff.1 h)

lemma trimStart_eq_self (h : ∀ c ∈ cs.head?, isBlank c = false) : trimStart cs = cs := by
  cases cs with
  | nil => rfl
  | cons c cs => exact List.dropWhile_cons_of_neg (by simpa using h c rfl)

lemma trimEnd_append (h : allBlank after = true) : trimEnd (cs ++ after) = trimEnd cs := by
  have hreverse : ∀ c ∈ after.reverse, isBlank c = true := fun c hc =>
    allBlank_iff.1 h c (List.mem_reverse.1 hc)
  rw [trimEnd, List.reverse_append, List.dropWhile_append_of_pos hreverse, trimEnd]

lemma trimEnd_eq_self (h : ∀ c ∈ cs.getLast?, isBlank c = false) : trimEnd cs = cs := by
  have hself : cs.rdropWhile isBlank = cs :=
    List.rdropWhile_eq_self_iff.2 fun hne => by
      simpa using h _ (List.getLast?_eq_some_getLast hne)
  exact hself

/-! ## Both ends -/

/-- **What is left between blanks is what trimming leaves**, if it is trimmed. -/
theorem trim_between (hbefore : allBlank before = true) (hafter : allBlank after = true)
    (h : Trimmed cs) : trim (before ++ (cs ++ after)) = cs := by
  rw [trim, trimStart_append hbefore]
  rcases eq_or_ne cs [] with rfl | hne
  · -- with nothing between them, all blanks are taken from the front
    rw [List.nil_append, trimStart_eq_nil_iff.2 hafter]
    rfl
  · have hhead : (cs ++ after).head? = cs.head? := List.head?_append_of_ne_nil cs hne
    rw [trimStart_eq_self (by rw [hhead]; exact h.head), trimEnd_append hafter,
      trimEnd_eq_self h.last]

/-- After the blanks in front there is what trimming leaves, and blanks. -/
lemma exists_trimStart_eq (cs : List Char) :
    ∃ after, allBlank after = true ∧ trimStart cs = trim cs ++ after :=
  ⟨(trimStart cs).rtakeWhile isBlank, allBlank_iff.2 fun _ hc => List.mem_rtakeWhile_imp hc,
    (List.rdropWhile_append_rtakeWhile ..).symm⟩

/-- Every text is a trimmed one between blanks. -/
theorem exists_eq_between (cs : List Char) :
    ∃ before after, allBlank before = true ∧ allBlank after = true
      ∧ cs = before ++ (trim cs ++ after) := by
  obtain ⟨after, hafter, hend⟩ := exists_trimStart_eq cs
  refine ⟨cs.takeWhile isBlank, after, ?_, hafter, ?_⟩
  · exact allBlank_iff.2 fun c hc => List.mem_takeWhile_imp hc
  · rw [← hend]
    exact (List.takeWhile_append_dropWhile).symm

/-- Trimming adds nothing. -/
lemma mem_of_mem_trim {c : Char} (h : c ∈ trim cs) : c ∈ cs := by
  obtain ⟨before, after, -, -, hcs⟩ := exists_eq_between cs
  rw [hcs]
  exact List.mem_append_right _ (List.mem_append_left _ h)

/-- Trimming removes blanks only. -/
lemma mem_trim {c : Char} (hmem : c ∈ cs) (hc : isBlank c = false) : c ∈ trim cs := by
  obtain ⟨before, after, hbefore, hafter, hcs⟩ := exists_eq_between cs
  rw [hcs, List.mem_append, List.mem_append] at hmem
  rcases hmem with hmem | hmem | hmem
  · exact absurd (allBlank_iff.1 hbefore c hmem) (Bool.eq_false_iff.1 hc)
  · exact hmem
  · exact absurd (allBlank_iff.1 hafter c hmem) (Bool.eq_false_iff.1 hc)

/-- The blanks in front of a character that is none are those at the start. -/
lemma trimStart_append_cons {c : Char} (hbefore : allBlank before = true)
    (hc : isBlank c = false) : trimStart (before ++ c :: cs) = c :: cs := by
  rw [trimStart_append hbefore]
  exact trimStart_eq_self fun d hd => (Option.some.inj hd) ▸ hc

lemma head?_trim {c : Char} (hbefore : allBlank before = true) (hc : isBlank c = false) :
    (trim (before ++ c :: cs)).head? = some c := by
  obtain ⟨after, hafter, hstart⟩ := exists_trimStart_eq (before ++ c :: cs)
  rw [trimStart_append_cons hbefore hc] at hstart
  cases htrim : trim (before ++ c :: cs) with
  | nil =>
    rw [htrim, List.nil_append] at hstart
    have hblank : isBlank c = true := allBlank_iff.1 hafter c (hstart ▸ List.mem_cons_self)
    rw [hc] at hblank
    contradiction
  | cons d ds =>
    rw [htrim] at hstart
    rw [(List.cons.inj hstart).1]
    rfl

lemma trim_eq_nil (h : allBlank cs = true) : trim cs = [] := by
  rw [trim, trimStart_eq_nil_iff.2 h]
  rfl

theorem trimmed_trim (cs : List Char) : Trimmed (trim cs) := by
  constructor
  · -- what trimming leaves begins as what is left after the blanks in front
    intro c hc
    obtain ⟨after, hafter⟩ : trim cs <+: trimStart cs := List.rdropWhile_prefix isBlank _
    have hhead : (trimStart cs).head? = some c := by
      rw [← hafter, List.head?_append, hc]
      rfl
    have hnot := List.head?_dropWhile_not isBlank cs
    rw [trimStart] at hhead
    rwa [hhead] at hnot
  · intro c hc
    obtain ⟨hne, rfl⟩ := List.mem_getLast?_eq_getLast hc
    exact Bool.eq_false_iff.2 (List.rdropWhile_last_not isBlank (trimStart cs) hne)

/-- Whatever stands between two trimmed texts, the whole is trimmed. -/
lemma Trimmed.append {cs' : List Char} (h : Trimmed cs) (h' : Trimmed cs') (hne : cs ≠ [])
    (hne' : cs' ≠ []) (between : List Char) : Trimmed (cs ++ (between ++ cs')) where
  head := by
    rw [List.head?_append_of_ne_nil cs hne]
    exact h.head
  last := by
    rw [← List.append_assoc, List.getLast?_append_of_ne_nil _ hne']
    exact h'.last

/-- A part of a trimmed text may give way to a character that is not blank. -/
lemma Trimmed.replace {c : Char} (h : Trimmed (before ++ cs ++ after)) (hc : isBlank c = false) :
    Trimmed (before ++ c :: after) where
  head := by
    intro d hd
    cases before with
    | nil =>
      obtain rfl : c = d := Option.some.inj hd
      exact hc
    | cons b before => exact h.head d hd
  last := by
    intro d hd
    rcases List.eq_nil_or_concat' after with rfl | ⟨init, e, rfl⟩
    · obtain rfl : c = d := by simpa using hd
      exact hc
    · rw [← List.cons_append, ← List.append_assoc, List.getLast?_concat] at hd
      refine h.last d ?_
      rwa [← List.append_assoc, List.getLast?_concat]

lemma trim_eq_self_iff : trim cs = cs ↔ Trimmed cs := by
  constructor
  · intro h
    rw [← h]
    exact trimmed_trim cs
  · intro h
    rw [trim, trimStart_eq_self h.head, trimEnd_eq_self h.last]

end ApiSurvey.Text
