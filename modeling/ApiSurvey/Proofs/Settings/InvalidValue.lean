import ApiSurvey.Proofs.Settings.Location

/-!
# The span of an invalid value

Settings that can be read but are not valid fail with the span of the value that is wrong, if one
is found.  Where the values of the text are each on one line, the span begins at the value that
counts, and it covers that value as it is written and what follows it up to the last character of
its line that is not blank: nothing, or a comment.
-/

namespace ApiSurvey.Settings

open Text Toml

/-- What may follow a value on its line: nothing, or a comment after blanks. -/
def Trailing (rest : List Char) : Prop :=
  rest = [] ∨ ∃ blanks comment, (∀ c ∈ blanks, isBlankChar c = true)
    ∧ rest = blanks ++ '#' :: comment

/-- The statements assign the value to the setting of a table, and it is written as `source`. -/
def AssignedAs (statements : List Statement) (setting : String × String) (v : Value)
    (source : List Char) : Prop :=
  ∃ earlier later, statements = earlier ++ .assign [setting.2] v source :: later
    ∧ lastHeader? earlier = some (.header [setting.1])

/-- In the text, so many bytes from its beginning, the value is read from `source`. -/
def ReadAt (text : List Char) (start : Nat) (v : Value) (source : List Char) : Prop :=
  ∃ before after fuel, text = before ++ (source ++ after) ∧ start = byteLength before
    ∧ value? fuel nestingLimit (source ++ after) = some (v, after)

/-- A configuration table binds the setting to the value. -/
def Binds (members : Members) (setting : String × String) (v : Value) : Prop :=
  ∃ inside, members.lookup setting.1 = some (.table inside) ∧ inside.lookup setting.2 = some v

/-! ## The end of the line -/

lemma Trailing.exists_of_lineEnd {source ending after : List Char} (hne : source ≠ [])
    (hsource : Trimmed source) (hend : LineEnd ending after) :
    ∃ rest blanks, Trailing rest ∧ allBlank blanks = true ∧ ending = rest ++ blanks
      ∧ Trimmed (source ++ rest) := by
  rcases lineEnd_cases hend with hblank | ⟨blanks, comment, hblanks, rfl⟩
  · exact ⟨[], ending, .inl rfl, hblank, rfl, by rwa [List.append_nil]⟩
  · obtain ⟨after, hafter, hstart⟩ := exists_trimStart_eq ('#' :: comment)
    have hself : trimStart ([] ++ '#' :: comment) = '#' :: comment :=
      trimStart_append_cons rfl (by decide)
    have hhead : (trim ([] ++ '#' :: comment)).head? = some '#' := head?_trim rfl (by decide)
    rw [List.nil_append] at hself hhead
    obtain ⟨shown, hshown⟩ := List.head?_eq_some_iff.1 hhead
    have htrimmed : Trimmed ('#' :: shown) := hshown ▸ trimmed_trim _
    rw [hself, hshown] at hstart
    refine ⟨blanks ++ '#' :: shown, after, .inr ⟨blanks, shown, hblanks, rfl⟩, hafter, ?_, ?_⟩
    · rw [hstart, List.append_assoc]
    · exact hsource.append htrimmed hne (by simp) blanks

/-- In front of what trimming leaves there are the blanks at the start. -/
lemma byteLength_trimStart {between shown blanks : List Char} (hbetween : allBlank between = true)
    (hne : shown ≠ []) (hshown : Trimmed shown) :
    byteLength (between ++ (shown ++ blanks))
        - byteLength (trimStart (between ++ (shown ++ blanks))) = byteLength between := by
  obtain ⟨c, cs, rfl⟩ := List.exists_cons_of_ne_nil hne
  have hstart : trimStart (between ++ c :: (cs ++ blanks)) = c :: (cs ++ blanks) :=
    trimStart_append_cons hbetween (hshown.head c rfl)
  rw [List.cons_append, hstart, byteLength_append, Nat.add_sub_cancel]

/-! ## The value -/

variable {members : Members} {s : Settings} {problem : Problem} {v : Value}

/-- A setting that is bound is given. -/
lemma Binds.given? {names : List String} {tableName key : String}
    (h : Binds members (tableName, key) v) : given? members tableName names key = some v := by
  obtain ⟨inside, htable, hkey⟩ := h
  rw [Settings.given?, htable]
  exact hkey

lemma isInteger_of_size? {n : Nat} (h : size? v = some n) : ∃ n, v = .integer n := by
  cases v with
  | integer n => exact ⟨n, rfl⟩
  | _ => contradiction

lemma isString_of_optionalText? {text : Option String} (h : optionalText? v = some text) :
    ∃ text, v = .string text := by
  cases v with
  | string text => exact ⟨text, rfl⟩
  | _ => contradiction

/-- The settings that can have a problem are strings and integers. -/
lemma Binds.string_or_integer (hdescribed : DescribedBy members s) (problem : Problem)
    (h : Binds members problem.setting v) :
    (∃ text, v = .string text) ∨ ∃ n, v = .integer n := by
  cases problem with
  | topNZero =>
    have hread := hdescribed.topN
    rw [h.given?] at hread
    exact .inr (isInteger_of_size? hread)
  | maxDepthZero =>
    have hread := hdescribed.maxDepth
    rw [h.given?] at hread
    exact .inr (isInteger_of_size? hread)
  | notMediaType text =>
    have hread := hdescribed.contentType
    rw [h.given?] at hread
    exact .inl (isString_of_optionalText? hread)

lemma isBare_setting (problem : Problem) :
    IsBare problem.setting.1 ∧ IsBare problem.setting.2 := by
  cases problem <;> simp [Problem.setting, IsBare, isKeyChar]

lemma parse_eq_invalid {text file file' : String} {problem : Problem} {span : Option Span}
    (h : Settings.parse text file = .error (.invalid file' problem span)) :
    ∃ members s, Toml.parse? text = some members ∧ ofTable? members = some s
      ∧ span = valueSpan? text problem.setting.1 problem.setting.2 := by
  unfold Settings.parse at h
  split at h
  · cases h
  · next s hs =>
    obtain ⟨members, hmembers, hdescribed⟩ := Option.bind_eq_some_iff.1 hs
    split at h
    · obtain ⟨-, rfl, rfl⟩ := Failure.invalid.inj (Except.error.inj h)
      exact ⟨members, s, hmembers, hdescribed, rfl⟩
    · contradiction

/-- What is found on a line covers the value and what follows it. -/
lemma exists_covers {text before between source ending after : List Char} {fuel : Nat}
    {span : Span} (htext : text = before ++ (between ++ (source ++ (ending ++ after))))
    (hbetween : ∀ c ∈ between, isBlankChar c = true) (hend : LineEnd ending after)
    (hvalue : value? fuel nestingLimit (source ++ (ending ++ after)) = some (v, ending ++ after))
    (hspan : span = ⟨0 + byteLength before + (byteLength (between ++ (source ++ ending))
        - byteLength (trimStart (between ++ (source ++ ending)))),
      byteLength (trim (between ++ (source ++ ending)))⟩)
    (hkind : (∃ text, v = .string text) ∨ ∃ n, v = .integer n) :
    ∃ rest, Trailing rest ∧ ReadAt text span.start v source
      ∧ span.Covers text (source ++ rest) := by
  obtain ⟨hne, htrimmed⟩ := trimmed_of_value? hvalue hkind
  obtain ⟨rest, blanks, hrest, hblanks, rfl, hshown⟩ :=
    Trailing.exists_of_lineEnd hne htrimmed hend
  -- on its line, what is shown of the value is between blanks
  have hline : between ++ (source ++ (rest ++ blanks))
      = between ++ ((source ++ rest) ++ blanks) := by
    rw [List.append_assoc]
  have hfront : allBlank between = true := allBlank_of_blanks hbetween
  have hnonempty : source ++ rest ≠ [] := by simp [hne]
  have hspan' : span = ⟨byteLength (before ++ between), byteLength (source ++ rest)⟩ := by
    rw [hspan, hline, byteLength_trimStart hfront hnonempty hshown,
      trim_between hfront hblanks hshown, byteLength_append before, Nat.zero_add]
  refine ⟨rest, hrest, ⟨before ++ between, (rest ++ blanks) ++ after, fuel, ?_, by rw [hspan'],
    hvalue⟩, ⟨before ++ between, blanks ++ after, ?_, by rw [hspan'], by rw [hspan']⟩⟩
  · rw [htext]
    exact (List.append_assoc ..).symm
  · rw [htext]
    simp

/-- **The span of an invalid value** in a text whose values are each on one line begins at the value
that counts, and covers it as it is written with what follows it on its line up to the last
character that is not blank.  So it covers just the value if and only if there is no comment. -/
theorem span_covers (text file file' : String) (problem : Problem) (span : Span)
    (statements : List Statement)
    (h : Settings.parse text file = .error (.invalid file' problem (some span)))
    (hstatements : statements? text = some statements) (hone : OneLine statements) :
    ∃ members v source rest,
      Toml.parse? text = some members ∧ Binds members problem.setting v
      ∧ AssignedAs statements problem.setting v source ∧ ReadAt text.toList span.start v source
      ∧ Trailing rest ∧ span.Covers text.toList (source ++ rest)
      ∧ (span.Covers text.toList source ↔ rest = []) := by
  obtain ⟨members, s, hmembers, hs, hspan⟩ := parse_eq_invalid h
  obtain ⟨htable, hkey⟩ := isBare_setting problem
  obtain ⟨earlier, later, v, source, hassigned, hlast, before, between, ending, after, fuel, htext,
    hbetween, hend, hvalue, hlocated⟩ :=
      located_of_valueSpan? htable hkey hstatements hone hspan.symm
  -- the assignment that is found is the one that the setting is read from
  have hbinds : Binds members problem.setting v := by
    rw [Toml.parse?, hstatements, Option.bind_some, hassigned] at hmembers
    exact lookup_of_assigned hlast hmembers
  have hkind := hbinds.string_or_integer (describedBy_of_ofTable? hs) problem
  obtain ⟨rest, hrest, hread, hcovers⟩ :=
    exists_covers htext hbetween hend hvalue hlocated hkind
  refine ⟨members, v, source, rest, hmembers, hbinds, ⟨earlier, later, hassigned, hlast⟩, hread,
    hrest, hcovers, ?_⟩
  constructor
  · intro hsource
    have heq : source ++ [] = source ++ rest := by
      rw [List.append_nil]
      exact hsource.unique hcovers
    exact (List.append_cancel_left heq).symm
  · rintro rfl
    rwa [List.append_nil] at hcovers

/-- A size that is zero, with nothing behind it. -/
def zeroTopN : String := "[reduce]\ntop_n = 0\n"

theorem span_covers_zeroTopN :
    Settings.parse zeroTopN "lens.toml"
        = .error (.invalid "lens.toml" .topNZero (some ⟨17, 1⟩))
      ∧ ∃ members v source rest,
        Toml.parse? zeroTopN = some members ∧ Binds members ("reduce", "top_n") v
        ∧ AssignedAs [.header ["reduce"], .assign ["top_n"] (.integer 0) ['0']]
          ("reduce", "top_n") v source
        ∧ ReadAt zeroTopN.toList 17 v source
        ∧ Trailing rest ∧ Span.Covers ⟨17, 1⟩ zeroTopN.toList (source ++ rest)
        ∧ (Span.Covers ⟨17, 1⟩ zeroTopN.toList source ↔ rest = []) := by
  have hparse : Settings.parse zeroTopN "lens.toml"
      = .error (.invalid "lens.toml" .topNZero (some ⟨17, 1⟩)) := by decide +kernel
  have hstatements : statements? zeroTopN
      = some [.header ["reduce"], .assign ["top_n"] (.integer 0) ['0']] := by cbv
  have hone : OneLine [.header ["reduce"], .assign ["top_n"] (.integer 0) ['0']] := by
    intro path v source hmem
    simp at hmem
    simp [hmem]
  exact ⟨hparse, span_covers zeroTopN _ _ .topNZero _ _ hparse hstatements hone⟩

/-- The same size with a comment behind it. -/
def commentedTopN : String := "[reduce]\ntop_n = 0                 # must be >= 1\n"

/-- The span of the size covers the comment too, which is no part of the value. -/
theorem not_covers_commentedTopN :
    Settings.parse commentedTopN "lens.toml"
        = .error (.invalid "lens.toml" .topNZero (some ⟨17, 32⟩))
      ∧ statements? commentedTopN
        = some [.header ["reduce"], .assign ["top_n"] (.integer 0) ['0']]
      ∧ ¬ Span.Covers ⟨17, 32⟩ commentedTopN.toList ['0'] := by
  refine ⟨by decide +kernel, by cbv, ?_⟩
  rintro ⟨-, -, -, -, hlength⟩
  exact absurd hlength (by decide)

end ApiSurvey.Settings
