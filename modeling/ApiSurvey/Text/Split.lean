/-!
# Cutting text at a separator

Texts are cut into the pieces between the occurrences of one character.  There is always one piece
more than there are separators, so the empty text has one empty piece.
-/

namespace ApiSurvey.Text

/-- The pieces between the occurrences of `sep`, in order. -/
def splitOn (sep : Char) : List Char → List (List Char)
  | [] => [[]]
  | c :: cs =>
    if c = sep then [] :: splitOn sep cs
    else match splitOn sep cs with
      | [] => [[c]]
      | piece :: pieces => (c :: piece) :: pieces

/-- The text before and after the first character that satisfies `p`, that character left out. -/
def splitOnce (p : Char → Bool) : List Char → Option (List Char × List Char)
  | [] => none
  | c :: cs =>
    if p c then some ([], cs)
    else (splitOnce p cs).map fun parts => (c :: parts.1, parts.2)

/-- What follows `lead`, for a text that begins with it. -/
def stripLead : List Char → List Char → Option (List Char)
  | [], cs => some cs
  | _ :: _, [] => none
  | l :: lead, c :: cs => if l = c then stripLead lead cs else none

/-- What precedes `tail`, for a text that ends with it. -/
def stripTail (tail cs : List Char) : Option (List Char) :=
  (stripLead tail.reverse cs.reverse).map List.reverse

/-- Whether `needle` stands somewhere in the text. -/
def occurs (needle : List Char) : List Char → Bool
  | [] => needle.isEmpty
  | c :: cs => (stripLead needle (c :: cs)).isSome || occurs needle cs

/-- The pieces joined with `sep` between neighbours. -/
def joinWith (sep : List Char) : List (List Char) → List Char
  | [] => []
  | [piece] => piece
  | piece :: pieces => piece ++ sep ++ joinWith sep pieces

theorem splitOn_ne_nil (sep : Char) (cs : List Char) : splitOn sep cs ≠ [] := by
  induction cs with
  | nil => simp [splitOn]
  | cons c cs ih =>
    unfold splitOn
    split
    · simp
    · split <;> simp

/-- A separator between two texts is a cut between their pieces. -/
theorem splitOn_append_cons (sep : Char) (a b : List Char) :
    splitOn sep (a ++ sep :: b) = splitOn sep a ++ splitOn sep b := by
  induction a with
  | nil => simp [splitOn]
  | cons c a ih =>
    by_cases h : c = sep
    · simp [splitOn, h, ih]
    · obtain ⟨piece, pieces, hpieces⟩ := List.exists_cons_of_ne_nil (splitOn_ne_nil sep a)
      rw [hpieces] at ih
      simp [splitOn, h, hpieces, ih]

theorem splitOnce_eq_none_iff {p : Char → Bool} {cs : List Char} :
    splitOnce p cs = none ↔ ∀ c ∈ cs, p c = false := by
  induction cs with
  | nil => simp [splitOnce]
  | cons c cs ih => by_cases h : p c <;> simp [splitOnce, h, ih]

/-- The cut is at the first character that satisfies `p`. -/
theorem splitOnce_append_cons {p : Char → Bool} {sep : Char} {before after : List Char}
    (hbefore : ∀ c ∈ before, p c = false) (hsep : p sep = true) :
    splitOnce p (before ++ sep :: after) = some (before, after) := by
  induction before with
  | nil => simp [splitOnce, hsep]
  | cons c before ih =>
    have hc : p c = false := hbefore c List.mem_cons_self
    have hrest : splitOnce p (before ++ sep :: after) = some (before, after) :=
      ih fun b hb => hbefore b (List.mem_cons_of_mem c hb)
    simp [splitOnce, hc, hrest]

/-- What is cut is what is in front of the first character that satisfies `p`, and what follows. -/
theorem eq_append_of_splitOnce {p : Char → Bool} {cs before after : List Char}
    (h : splitOnce p cs = some (before, after)) :
    ∃ sep, p sep = true ∧ cs = before ++ sep :: after ∧ ∀ c ∈ before, p c = false := by
  induction cs generalizing before with
  | nil => simp [splitOnce] at h
  | cons c cs ih =>
    by_cases hc : p c = true
    · simp only [splitOnce, hc, if_true, Option.some.injEq, Prod.mk.injEq] at h
      obtain ⟨rfl, rfl⟩ := h
      exact ⟨c, hc, rfl, by simp⟩
    · simp only [splitOnce, hc, Bool.false_eq_true, if_false, Option.map_eq_some_iff,
        Prod.mk.injEq, Prod.exists] at h
      obtain ⟨before', after', hrest, rfl, rfl⟩ := h
      obtain ⟨sep, hsep, rfl, hbefore⟩ := ih hrest
      exact ⟨sep, hsep, rfl, List.forall_mem_cons.2 ⟨Bool.eq_false_iff.2 hc, hbefore⟩⟩

theorem stripLead_eq_some_iff {lead cs rest : List Char} :
    stripLead lead cs = some rest ↔ cs = lead ++ rest := by
  induction lead generalizing cs with
  | nil => simp [stripLead]
  | cons l lead ih =>
    cases cs with
    | nil => simp [stripLead]
    | cons c cs =>
      by_cases h : l = c
      · simp [stripLead, h, ih]
      · simp [stripLead, h, Ne.symm h]

theorem stripTail_eq_some_iff {tail cs rest : List Char} :
    stripTail tail cs = some rest ↔ cs = rest ++ tail := by
  simp only [stripTail, Option.map_eq_some_iff, stripLead_eq_some_iff]
  constructor
  · rintro ⟨r, h, rfl⟩
    simpa using congrArg List.reverse h
  · rintro rfl
    exact ⟨rest.reverse, by simp, by simp⟩

/-- A text stands somewhere in another if it is a part of it. -/
theorem occurs_iff {needle cs : List Char} : occurs needle cs = true ↔ needle <:+: cs := by
  induction cs with
  | nil => simp [occurs]
  | cons c cs ih =>
    have hlead : (stripLead needle (c :: cs)).isSome = true ↔ needle <+: c :: cs := by
      simp only [Option.isSome_iff_exists, stripLead_eq_some_iff]
      exact ⟨fun ⟨rest, h⟩ => ⟨rest, h.symm⟩, fun ⟨rest, h⟩ => ⟨rest, h.symm⟩⟩
    rw [occurs, Bool.or_eq_true, hlead, ih, List.infix_cons_iff]

end ApiSurvey.Text
