/-!
# Names in JSON pointers

A name that stands between slashes writes its tildes as `~0` and its slashes as `~1`.  Decoding is
total: a tilde that begins no escape stands for itself.
-/

namespace ApiSurvey.Json.Pointer

/-- A name as it is written between slashes. -/
def escape : List Char → List Char
  | [] => []
  | c :: cs =>
    if c = '~' then '~' :: '0' :: escape cs
    else if c = '/' then '~' :: '1' :: escape cs
    else c :: escape cs

/-- The name that is written between slashes. -/
def unescape : List Char → List Char
  | '~' :: '1' :: cs => '/' :: unescape cs
  | '~' :: '0' :: cs => '~' :: unescape cs
  | c :: cs => c :: unescape cs
  | [] => []

theorem unescape_cons_of_ne {c : Char} (h : c ≠ '~') (cs : List Char) :
    unescape (c :: cs) = c :: unescape cs := by
  rw [unescape] <;> simp [h]

/-- **Decoding a written name gives the name back.** -/
theorem unescape_escape (cs : List Char) : unescape (escape cs) = cs := by
  induction cs with
  | nil => rfl
  | cons c cs ih =>
    by_cases ht : c = '~'
    · simp [escape, ht, unescape, ih]
    · by_cases hs : c = '/'
      · simp [escape, hs, unescape, ih]
      · simp [escape, ht, hs, unescape_cons_of_ne, ih]

theorem escape_eq_nil_iff {cs : List Char} : escape cs = [] ↔ cs = [] := by
  cases cs with
  | nil => simp [escape]
  | cons c cs =>
    simp only [escape, reduceCtorEq, iff_false]
    split
    · simp
    · split <;> simp

theorem slash_notMem_escape (cs : List Char) : '/' ∉ escape cs := by
  induction cs with
  | nil => simp [escape]
  | cons c cs ih =>
    by_cases ht : c = '~'
    · simp [escape, ht, ih]
    · by_cases hs : c = '/'
      · simp [escape, hs, ih]
      · simp [escape, ht, hs, Ne.symm hs, ih]

/-! ## Names without escapes -/

/-- No escape occurs in a text. -/
def Plain (cs : List Char) : Prop :=
  ¬ ['~', '0'] <:+: cs ∧ ¬ ['~', '1'] <:+: cs

theorem length_unescape_le (cs : List Char) : (unescape cs).length ≤ cs.length := by
  fun_induction unescape cs <;> simp only [List.length_cons, List.length_nil] <;> omega

/-- Decoding leaves a text as it is just if no escape occurs in it. -/
theorem unescape_eq_self_iff (cs : List Char) : unescape cs = cs ↔ Plain cs := by
  fun_induction unescape cs with
  | case1 cs =>
    have hescape : ['~', '1'] <:+: '~' :: '1' :: cs := ⟨[], cs, rfl⟩
    simp [Plain, hescape]
  | case2 cs =>
    have hescape : ['~', '0'] <:+: '~' :: '0' :: cs := ⟨[], cs, rfl⟩
    have hshorter : unescape cs ≠ '0' :: cs := by
      intro h
      have hle := length_unescape_le cs
      rw [h, List.length_cons] at hle
      omega
    simp [Plain, hescape, hshorter]
  | case3 c cs hslash htilde ih =>
    -- an escape that begins at the first character is excluded by the case
    have hcons : ∀ digit : Char, (∀ rest, c = '~' → cs = digit :: rest → False) →
        (['~', digit] <:+: c :: cs ↔ ['~', digit] <:+: cs) := by
      intro digit hno
      rw [List.infix_cons_iff]
      refine or_iff_right ?_
      rintro ⟨rest, heq⟩
      obtain ⟨rfl, hcs⟩ := List.cons.inj heq
      exact hno rest rfl hcs.symm
    rw [List.cons.injEq, and_iff_right rfl, ih, Plain, Plain, hcons '0' htilde, hcons '1' hslash]
  | case4 => simp [Plain]

end ApiSurvey.Json.Pointer
