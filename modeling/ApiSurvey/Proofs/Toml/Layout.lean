import ApiSurvey.Proofs.Toml.Reading
import ApiSurvey.Text.Lines

/-!
# The lines of a configuration text

A statement of a configuration text begins a line, and after it there is at most a comment.  So a
text whose values are each on one line is laid out line by line: there is a statement in a line or
none.
-/

namespace ApiSurvey.Toml

open Text

variable {cs rest after : List Char}

/-- No value that is assigned goes over several lines. -/
def OneLine (statements : List Statement) : Prop :=
  ∀ path v source, .assign path v source ∈ statements → '\n' ∉ source

/-- Lines and the statements in them, in order. -/
inductive Laid : List (List Char) → List Statement → Prop
  | nil : Laid [] []
  | remark {line : List Char} {lines : List (List Char)} {statements : List Statement}
      (hline : LineEnd line lines.flatten) (hrest : Laid lines statements) :
      Laid (line :: lines) statements
  | statement {blanks body ending : List Char} {lines : List (List Char)} {statement : Statement}
      {statements : List Statement} (hblanks : ∀ c ∈ blanks, isBlankChar c = true)
      (hread : statement? (body ++ (ending ++ lines.flatten))
        = some (statement, ending ++ lines.flatten))
      (hending : LineEnd ending lines.flatten) (hrest : Laid lines statements) :
      Laid ((blanks ++ (body ++ ending)) :: lines) (statement :: statements)

/-! ## Single lines -/

/-- Nothing is the end of a line at the end of the text only. -/
lemma LineEnd.rest_eq_nil (h : LineEnd [] rest) : rest = [] := by
  obtain ⟨blanks, remark, closing, -, -, hclosing, hnil⟩ := h
  obtain ⟨-, hclosed⟩ := List.append_eq_nil_iff.1 hnil.symm
  obtain ⟨-, rfl⟩ := List.append_eq_nil_iff.1 hclosed
  rcases hclosing with heq | heq | ⟨-, hrest⟩
  · contradiction
  · contradiction
  · exact hrest

/-- What is in front of the end of a line is the line, with that end. -/
lemma lines_lineEnd {body ending : List Char} (hbody : '\n' ∉ body) (h : LineEnd ending rest)
    (hne : body ++ ending ≠ []) :
    lines (body ++ (ending ++ rest)) = (body ++ ending) :: lines rest := by
  obtain ⟨blanks, remark, closing, hblanks, hremark, hbreak, rfl⟩ := h
  have hline : '\n' ∉ body ++ (blanks ++ remark) := by
    have hremark' : '\n' ∉ remark := by
      rcases hremark with rfl | ⟨comment, rfl, hcomment⟩
      · exact List.not_mem_nil
      · simpa using hcomment
    simp [hbody, not_mem_of_blanks hblanks, hremark']
  rcases hbreak with rfl | rfl | ⟨rfl, rfl⟩
  · simpa using lines_append_newline hline rest
  · have hreturn : '\n' ∉ body ++ (blanks ++ (remark ++ ['\r'])) := by
      simpa using hline
    simpa using lines_append_newline hreturn rest
  · have hline' : '\n' ∉ body ++ (blanks ++ (remark ++ [])) := by
      simpa using hline
    rw [List.append_nil (blanks ++ (remark ++ [])), lines_eq_singleton hline' hne]
    rfl

/-- What a statement can be: a header, or an assignment with the value that is read after its
sign. -/
lemma statement?_cases {statement : Statement} (h : statement? cs = some (statement, after)) :
    (∃ rest, cs = '[' :: rest ∧ OnLine rest after
        ∧ ∀ path v source, statement ≠ .assign path v source)
      ∨ ∃ path v source fuel, statement = .assign path v source
        ∧ assignedKey? (some ∘ skipBlanks) cs = some (path, source ++ after)
        ∧ value? fuel nestingLimit (source ++ after) = some (v, after) := by
  rw [statement?.eq_def] at h
  split at h
  · next rest =>
    obtain ⟨⟨path, afterKey⟩, hkey, h⟩ := Option.bind_eq_some_iff.1 h
    have hline : OnLine rest afterKey := (beginsKey_of_dottedKeyWithin? hkey).onLine
    split at h
    · next heq =>
      obtain ⟨rfl, rfl⟩ := Prod.mk.inj heq
      obtain ⟨rfl, rfl⟩ := Prod.mk.inj (Option.some.inj h)
      refine .inl ⟨_, rfl, .cons (by decide) (hline.trans ?_), by simp⟩
      exact .cons (by decide) (.one (by decide))
    · contradiction
  · next rest _ =>
    obtain ⟨⟨path, afterKey⟩, hkey, h⟩ := Option.bind_eq_some_iff.1 h
    have hline : OnLine rest afterKey := (beginsKey_of_dottedKeyWithin? hkey).onLine
    split at h
    · next heq =>
      obtain ⟨rfl, rfl⟩ := Prod.mk.inj heq
      obtain ⟨rfl, rfl⟩ := Prod.mk.inj (Option.some.inj h)
      exact .inl ⟨_, rfl, hline.trans (.one (by decide)), by simp⟩
    · contradiction
  · obtain ⟨⟨path, afterSign⟩, hkey, h⟩ := Option.bind_eq_some_iff.1 h
    obtain ⟨⟨v, after'⟩, hvalue, h⟩ := Option.bind_eq_some_iff.1 h
    obtain ⟨rfl, rfl⟩ := Prod.mk.inj (Option.some.inj h)
    obtain ⟨source, rfl⟩ := value?_suffix _ _ _ _ _ hvalue
    refine .inr ⟨path, v, source, _, ?_, hkey, hvalue⟩
    simp

/-- A header of one key without quotes and blanks. -/
lemma statement?_header {name : List Char} (hne : name ≠ [])
    (hname : ∀ c ∈ name, isKeyChar c = true) (rest : List Char) :
    statement? ('[' :: (name ++ ']' :: rest)) = some (.header [String.ofList name], rest) := by
  have hbracket : ∀ c ∈ (']' :: rest).head?, isKeyChar c = false := by
    intro c hc
    obtain rfl : ']' = c := Option.some.inj hc
    decide
  have hkey : dottedKey? (name ++ ']' :: rest) = some ([String.ofList name], ']' :: rest) :=
    dottedKey?_append hne hname hbracket (by simp [skipBlanks, isBlankChar])
  obtain ⟨c, cs, rfl⟩ := List.exists_cons_of_ne_nil hne
  have hc : isKeyChar c = true := hname c List.mem_cons_self
  rw [statement?.eq_def]
  split
  · next heq =>
    -- a bracket is no character of a key
    obtain ⟨-, hcons⟩ := List.cons.inj heq
    obtain ⟨rfl, -⟩ := List.cons.inj hcons
    exact absurd hc (by decide)
  · next heq =>
    obtain ⟨-, rfl⟩ := List.cons.inj heq
    rw [hkey]
    rfl
  · next hnot => exact absurd rfl (hnot _)

/-- A statement whose value is on one line is on that line. -/
lemma statement?_onLine {statement : Statement} (h : statement? cs = some (statement, after))
    (hline : ∀ path v source, statement = .assign path v source → '\n' ∉ source) :
    OnLine cs after := by
  rcases statement?_cases h with ⟨rest, rfl, hrest, -⟩ | ⟨path, v, source, fuel, rfl, hkey, -⟩
  · exact hrest.cons (by decide)
  · exact (beginsKey_of_assignedKey? hkey).onLine.trans (.append (hline path v source rfl) after)

/-! ## The whole text -/

/-- A line of blanks and a comment in front of a text that is laid out. -/
lemma laid_lineEnd {line : List Char} {statements : List Statement} (hline : LineEnd line rest)
    (hne : line ≠ []) (hrest : Laid (lines rest) statements) :
    Laid (lines (line ++ rest)) statements := by
  have hlines : lines (line ++ rest) = line :: lines rest :=
    lines_lineEnd List.not_mem_nil hline hne
  rw [hlines]
  exact .remark (by rwa [flatten_lines]) hrest

/-- Lines of blanks and comments are passed over, and of the next line the blanks in front. -/
lemma laid_of_skipLinesWithin? {fuel : Nat} (h : skipLinesWithin? fuel cs = some rest) :
    (rest = [] ∧ Laid (lines cs) [])
      ∨ (rest ≠ [] ∧ ∃ blanks, (∀ c ∈ blanks, isBlankChar c = true)
        ∧ ∀ statements, Laid (lines (blanks ++ rest)) statements →
          Laid (lines cs) statements) := by
  induction fuel generalizing cs with
  | zero => contradiction
  | succ fuel ih =>
    rw [skipLinesWithin?, Option.bind_eq_bind, Option.bind_eq_some_iff] at h
    obtain ⟨afterComment, hcomment, h⟩ := h
    obtain ⟨blanks, remark, hblanks, hremark, rfl, hafter⟩ :=
      exists_remark_of_skipComment? hcomment
    split at h
    · -- the line ends here, and the next one follows
      next next hbreak =>
      obtain ⟨closing, hne, hclosing, rfl⟩ := break_of_lineBreak? hbreak
      have hline : LineEnd (blanks ++ (remark ++ closing)) next :=
        ⟨blanks, remark, closing, hblanks, hremark, hclosing, rfl⟩
      have hlaid : ∀ statements, Laid (lines next) statements →
          Laid (lines (blanks ++ (remark ++ (closing ++ next)))) statements := by
        intro statements hnext
        simpa only [List.append_assoc] using laid_lineEnd hline (by simp [hne]) hnext
      rcases ih h with ⟨rfl, hnext⟩ | ⟨hrest, blanks', hblanks', hnext⟩
      · exact .inl ⟨rfl, hlaid _ hnext⟩
      · exact .inr ⟨hrest, blanks', hblanks', fun statements hs => hlaid _ (hnext statements hs)⟩
    · next hbreak =>
      obtain rfl := Option.some.inj h
      rcases eq_or_ne afterComment [] with rfl | hne
      · refine .inl ⟨rfl, ?_⟩
        have hline : LineEnd (blanks ++ (remark ++ [])) [] :=
          ⟨blanks, remark, [], hblanks, hremark, .inr (.inr ⟨rfl, rfl⟩), rfl⟩
        rcases eq_or_ne (blanks ++ (remark ++ [])) [] with hnil | hline'
        · rw [hnil]
          exact .nil
        · have hlaid := laid_lineEnd hline hline' .nil
          rwa [List.append_nil (blanks ++ (remark ++ []))] at hlaid
      · -- a comment would have gone on to a break
        rcases hafter with rfl | rfl | ⟨next, rfl⟩
        · exact .inr ⟨hne, blanks, hblanks, fun statements hs => hs⟩
        · exact absurd rfl hne
        · contradiction

/-- **A text whose values are each on one line is laid out line by line.** -/
theorem laid_of_statementsWithin? {fuel : Nat} {statements : List Statement}
    (h : statementsWithin? fuel cs = some statements) (hone : OneLine statements) :
    Laid (lines cs) statements := by
  induction fuel generalizing cs statements with
  | zero => contradiction
  | succ fuel ih =>
    rw [statementsWithin?, Option.bind_eq_bind, Option.bind_eq_some_iff] at h
    obtain ⟨rest, hskip, h⟩ := h
    rcases laid_of_skipLinesWithin? hskip with ⟨rfl, hlaid⟩ | ⟨hne, blanks, hblanks, hbefore⟩
    · obtain rfl := Option.some.inj h
      exact hlaid
    · split at h
      · contradiction
      obtain ⟨⟨statement, after⟩, hread, h⟩ := Option.bind_eq_some_iff.1 h
      obtain ⟨next, hend, h⟩ := Option.bind_eq_some_iff.1 h
      obtain ⟨statements', hrest, rfl⟩ := Option.map_eq_some_iff.1 h
      have hlaid : Laid (lines next) statements' :=
        ih hrest fun path v source hmem => hone path v source (.tail _ hmem)
      obtain ⟨ending, hending, rfl⟩ := endLine?_eq_some hend
      obtain ⟨body, rfl, hbody⟩ := statement?_onLine hread fun path v source heq =>
        hone path v source (heq ▸ .head _)
      have hfront : '\n' ∉ blanks ++ body := by
        simp [hbody, not_mem_of_blanks hblanks]
      have hline : (blanks ++ body) ++ ending ≠ [] := by
        intro hnil
        obtain ⟨hfront, rfl⟩ := List.append_eq_nil_iff.1 hnil
        obtain ⟨-, rfl⟩ := List.append_eq_nil_iff.1 hfront
        exact hne hending.rest_eq_nil
      apply hbefore
      rw [← List.append_assoc, lines_lineEnd hfront hending hline, List.append_assoc]
      exact .statement hblanks (by rwa [flatten_lines]) (by rwa [flatten_lines]) hlaid

end ApiSurvey.Toml
