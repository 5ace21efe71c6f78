import ApiSurvey.Proofs.Settings.Table
import ApiSurvey.Proofs.Toml.Binding
import ApiSurvey.Proofs.Toml.Layout
import ApiSurvey.Proofs.Toml.Source
import ApiSurvey.Settings.File

/-!
# Where the value of a setting is found

The value of a setting that is not valid is looked for line by line, without regard to what the text
means.  In a text whose values are each on one line the line that is found assigns the value that
counts, and the span begins where that value does.  It ends with the line: so it is just the value
as it is written if nothing but blanks follows it there, and goes on to the end of the comment if
there is one.
-/

namespace ApiSurvey.Settings

open Text Toml

/-! ## Spans -/

/-- The bytes of the text at the span are those of the piece. -/
def Span.Covers (span : Span) (text piece : List Char) : Prop :=
  ∃ before after, text = before ++ (piece ++ after) ∧ span.start = byteLength before
    ∧ span.length = byteLength piece

/-- A text begins with one text of a length. -/
lemma eq_of_byteLength_eq {a a' b b' : List Char} (h : a ++ b = a' ++ b')
    (hlength : byteLength a = byteLength a') : a = a' ∧ b = b' := by
  induction a generalizing a' with
  | nil =>
    cases a' with
    | nil => exact ⟨rfl, h⟩
    | cons c a' =>
      have hpos : 0 < c.utf8Size := c.utf8Size_pos
      simp at hlength
      omega
  | cons c a ih =>
    cases a' with
    | nil =>
      have hpos : 0 < c.utf8Size := c.utf8Size_pos
      simp at hlength
      omega
    | cons c' a' =>
      obtain ⟨rfl, htail⟩ := List.cons.inj h
      obtain ⟨rfl, hb⟩ := ih htail (by simpa using hlength)
      exact ⟨rfl, hb⟩

/-- A span covers one piece. -/
lemma Span.Covers.unique {span : Span} {text piece piece' : List Char} (h : span.Covers text piece)
    (h' : span.Covers text piece') : piece = piece' := by
  obtain ⟨before, after, rfl, hstart, hlength⟩ := h
  obtain ⟨before', after', heq, hstart', hlength'⟩ := h'
  obtain ⟨rfl, hrest⟩ := eq_of_byteLength_eq heq (hstart.symm.trans hstart')
  exact (eq_of_byteLength_eq hrest (hlength.symm.trans hlength')).1

/-! ## One line -/

variable {header key line : List Char} {lines : List (List Char)} {inTable : Bool} {offset : Nat}
  {span : Span}

lemma spanIn_header (h : (trim line).head? = some '[') :
    spanIn header key inTable offset (line :: lines)
      = spanIn header key (trim line == header) (offset + byteLength line) lines := by
  rw [spanIn]
  dsimp only
  rw [if_pos h]

/-- In the table, a line that gives the key a value is the one that is found. -/
lemma spanIn_found {name value : List Char} (h : (trim line).head? ≠ some '[')
    (hline : line = name ++ '=' :: value) (hname : '=' ∉ name) (hkey : trim name = key) :
    spanIn header key true offset (line :: lines) = some ⟨offset + byteLength name + 1
      + (byteLength value - byteLength (trimStart value)), byteLength (trim value)⟩ := by
  have hsplit : splitOnce (· == '=') line = some (name, value) := by
    rw [hline]
    exact splitOnce_append_cons (fun c hc => beq_false_of_ne fun heq => hname (heq ▸ hc)) rfl
  rw [spanIn]
  dsimp only
  rw [if_neg h, if_pos rfl, hsplit]
  exact if_pos hkey

/-- Any other line that is no header is passed over. -/
lemma spanIn_passed (h : (trim line).head? ≠ some '[') (hpass : inTable = true →
      ∀ name value, line = name ++ '=' :: value → '=' ∉ name → trim name ≠ key) :
    spanIn header key inTable offset (line :: lines)
      = spanIn header key inTable (offset + byteLength line) lines := by
  rw [spanIn]
  dsimp only
  rw [if_neg h]
  split
  · next hin =>
    split
    · next name value hsplit =>
      obtain ⟨sep, hsep, hline, hname⟩ := eq_append_of_splitOnce hsplit
      obtain rfl : sep = '=' := eq_of_beq hsep
      exact if_neg (hpass hin name value hline fun hmem => absurd (hname _ hmem) (by decide))
    · rfl
  · rfl

/-- A line that is no header is the one that is found, or passed over. -/
lemma spanIn_cons (h : (trim line).head? ≠ some '[')
    (hspan : spanIn header key inTable offset (line :: lines) = some span) :
    spanIn header key inTable (offset + byteLength line) lines = some span
      ∨ (inTable = true ∧ ∃ name value, line = name ++ '=' :: value ∧ '=' ∉ name ∧ trim name = key
        ∧ span = ⟨offset + byteLength name + 1
            + (byteLength value - byteLength (trimStart value)), byteLength (trim value)⟩) := by
  by_cases hfound : inTable = true
      ∧ ∃ name value, line = name ++ '=' :: value ∧ '=' ∉ name ∧ trim name = key
  · obtain ⟨rfl, name, value, hline, hname, hkey⟩ := hfound
    rw [spanIn_found h hline hname hkey] at hspan
    exact .inr ⟨rfl, name, value, hline, hname, hkey, (Option.some.inj hspan).symm⟩
  · refine .inl ?_
    rwa [spanIn_passed h fun hin name value hline hname hkey =>
      hfound ⟨hin, name, value, hline, hname, hkey⟩] at hspan

lemma allBlank_of_blanks {blanks : List Char} (h : ∀ c ∈ blanks, isBlankChar c = true) :
    allBlank blanks = true :=
  allBlank_iff.2 fun c hc => isBlank_of_isBlankChar (h c hc)

lemma allBlank_append_blanks {blanks blanks' : List Char}
    (h : ∀ c ∈ blanks, isBlankChar c = true) (h' : ∀ c ∈ blanks', isBlankChar c = true) :
    allBlank (blanks ++ blanks') = true :=
  allBlank_of_blanks fun c hc => (List.mem_append.1 hc).elim (h c) (h' c)

/-- What is at the end of a line is blank, or begins with a comment after blanks. -/
lemma lineEnd_cases {ending after : List Char} (h : LineEnd ending after) :
    allBlank ending = true ∨ ∃ blanks comment, (∀ c ∈ blanks, isBlankChar c = true)
      ∧ ending = blanks ++ '#' :: comment := by
  obtain ⟨blanks, remark, closing, hblanks, hremark, hclosing, rfl⟩ := h
  rcases hremark with rfl | ⟨comment, rfl, -⟩
  · refine .inl (allBlank_iff.2 fun c hc => ?_)
    rcases List.mem_append.1 hc with hmem | hmem
    · exact isBlank_of_isBlankChar (hblanks c hmem)
    · rw [List.nil_append] at hmem
      rcases hclosing with rfl | rfl | ⟨rfl, -⟩
      · obtain rfl := List.mem_singleton.1 hmem
        decide
      · simp only [List.mem_cons, List.not_mem_nil, or_false] at hmem
        rcases hmem with rfl | rfl <;> decide
      · contradiction
  · exact .inr ⟨blanks, comment ++ closing, hblanks, by simp⟩

/-- No line of blanks and a comment is found. -/
lemma spanIn_lineEnd {after : List Char} (hend : LineEnd line after)
    (hkey : ∀ c ∈ key, isKeyChar c = true)
    (hspan : spanIn header key inTable offset (line :: lines) = some span) :
    spanIn header key inTable (offset + byteLength line) lines = some span := by
  have hhead : (trim line).head? ≠ some '[' := by
    rcases lineEnd_cases hend with hblank | ⟨blanks, comment, hblanks, rfl⟩
    · rw [trim_eq_nil hblank]
      simp
    · rw [head?_trim (allBlank_of_blanks hblanks) (by decide)]
      simp
  rcases spanIn_cons hhead hspan with hrest | ⟨-, name, value, rfl, hname, htrim, -⟩
  · exact hrest
  · exfalso
    rcases lineEnd_cases hend with hblank | ⟨blanks, comment, hblanks, heq⟩
    · have hsign : isBlank '=' = true := allBlank_iff.1 hblank '=' (by simp)
      exact absurd hsign (by decide)
    · -- the sign is in the comment, and the mark of the comment in front of it
      have hmark : '#' ∈ name := by
        rcases List.append_eq_append_iff.1 heq with ⟨back, rfl, hrest⟩ | ⟨back, rfl, hrest⟩
        · cases back with
          | nil => simp at hrest
          | cons c back =>
            obtain ⟨rfl, -⟩ := List.cons.inj hrest
            exact absurd (hblanks '=' (by simp)) (by decide)
        · cases back with
          | nil => simp at hrest
          | cons c back =>
            obtain ⟨rfl, -⟩ := List.cons.inj hrest
            simp
      have hmem : '#' ∈ trim name := mem_trim hmark (by decide)
      rw [htrim] at hmem
      exact absurd (hkey '#' hmem) (by decide)

/-- The header of a table as it is looked for is read as the header of that table. -/
lemma statement_of_trim {blanks body ending after name : List Char} {statement : Statement}
    (hblanks : ∀ c ∈ blanks, isBlankChar c = true) (hne : name ≠ [])
    (hname : ∀ c ∈ name, isKeyChar c = true)
    (hread : statement? ('[' :: (body ++ (ending ++ after))) = some (statement, ending ++ after))
    (htrim : trim (blanks ++ '[' :: (body ++ ending)) = '[' :: (name ++ [']'])) :
    statement = .header [String.ofList name] := by
  obtain ⟨rest, -, hstart⟩ := exists_trimStart_eq (blanks ++ '[' :: (body ++ ending))
  rw [trimStart_append_cons (allBlank_of_blanks hblanks) (by decide), htrim] at hstart
  have htext : '[' :: (body ++ (ending ++ after)) = '[' :: (name ++ ']' :: (rest ++ after)) := by
    have happend := congrArg (· ++ after) hstart
    simpa using happend
  rw [htext, statement?_header hne hname] at hread
  exact (Prod.mk.inj (Option.some.inj hread)).1.symm

lemma isBlank_of_beginsKey {c : Char} (h : isKeyChar c = true ∨ c = '"' ∨ c = '\'') :
    isBlank c = false := by
  rcases h with h | rfl | rfl
  · exact isBlank_of_isKeyChar h
  · decide
  · decide

/-- The line of an assignment does not begin with a bracket. -/
lemma head?_trim_of_assignedKey? {blanks body ending after source : List Char}
    {path : List String} (hblanks : ∀ c ∈ blanks, isBlankChar c = true)
    (hassigned : assignedKey? (some ∘ skipBlanks) (body ++ (ending ++ after))
      = some (path, source ++ (ending ++ after))) :
    (trim (blanks ++ (body ++ ending))).head? ≠ some '[' := by
  obtain ⟨c, cs, hskip, hc, read, rfl, -⟩ := beginsKey_of_assignedKey? hassigned
  obtain ⟨blanks', hblanks', hbody⟩ := exists_eq_skipBlanks (body ++ (ending ++ after))
  have hline : body ++ ending = blanks' ++ c :: (read ++ (source ++ ending)) := by
    rw [hskip] at hbody
    exact (List.append_left_inj after).1 (by simpa using hbody)
  rw [hline, ← List.append_assoc,
    head?_trim (allBlank_append_blanks hblanks hblanks') (isBlank_of_beginsKey hc)]
  intro heq
  obtain rfl := Option.some.inj heq
  rcases hc with hc | hc | hc <;> exact absurd hc (by decide)

/-- Where the text in front of the first sign is a key up to blanks, that key is assigned, and the
value follows the sign. -/
lemma assign_of_trim {blanks body ending after name value source : List Char}
    {path : List String} (hblanks : ∀ c ∈ blanks, isBlankChar c = true) (hne : key ≠ [])
    (hkey : ∀ c ∈ key, isKeyChar c = true)
    (hline : blanks ++ (body ++ ending) = name ++ '=' :: value) (htrim : trim name = key)
    (hassigned : assignedKey? (some ∘ skipBlanks) (body ++ (ending ++ after))
      = some (path, source ++ (ending ++ after))) :
    path = [String.ofList key] ∧ ∃ between, (∀ c ∈ between, isBlankChar c = true)
      ∧ value = between ++ (source ++ ending) := by
  obtain ⟨c, cs, hskip, hc, -⟩ := beginsKey_of_assignedKey? hassigned
  have hc' : isBlank c = false := isBlank_of_beginsKey hc
  obtain ⟨front, back, hfront, hback, hbetween⟩ := exists_eq_between name
  rw [htrim] at hbetween
  obtain ⟨k, ks, rfl⟩ := List.exists_cons_of_ne_nil hne
  have hk : isBlank k = false := isBlank_of_isKeyChar (hkey k List.mem_cons_self)
  -- both ways to see the line, the text goes on with the key after the blanks
  have hfirst : trimStart (blanks ++ (body ++ (ending ++ after))) = c :: cs := by
    obtain ⟨blanks', hblanks', hbody⟩ := exists_eq_skipBlanks (body ++ (ending ++ after))
    rw [hbody, hskip, ← List.append_assoc]
    exact trimStart_append_cons (allBlank_append_blanks hblanks hblanks') hc'
  have hsecond : trimStart (blanks ++ (body ++ (ending ++ after)))
      = (k :: ks) ++ (back ++ '=' :: (value ++ after)) := by
    have htext : blanks ++ (body ++ (ending ++ after))
        = front ++ k :: (ks ++ (back ++ '=' :: (value ++ after))) := by
      have happend := congrArg (· ++ after) hline
      rw [hbetween] at happend
      simpa using happend
    rw [htext, trimStart_append_cons hfront hk]
    rfl
  have hkeyText : assignedKey? (some ∘ skipBlanks) ((k :: ks) ++ (back ++ '=' :: (value ++ after)))
      = some (path, source ++ (ending ++ after)) := by
    rw [← hsecond, hfirst, ← hskip, assignedKey?_skipBlanks, hassigned]
  obtain ⟨rfl, hafter⟩ := assignedKey?_simple (List.cons_ne_nil k ks) hkey hback hkeyText
  obtain ⟨between, hblank, hvalue⟩ := exists_eq_skipBlanks (value ++ after)
  refine ⟨rfl, between, hblank, ?_⟩
  rw [← hafter] at hvalue
  exact (List.append_left_inj after).1 (by simpa using hvalue)

/-! ## All lines -/

/-- A key is bare if it needs no quotes. -/
def IsBare (key : String) : Prop :=
  key.toList ≠ [] ∧ ∀ c ∈ key.toList, isKeyChar c = true

/-- Among statements after the header `last`, which are those of a text that begins at `offset`,
there is an assignment to the key under the header of the table, and the span is that of what
follows its sign, trimmed. -/
def Located (tableName key : String) (last : Option Statement) (statements : List Statement)
    (text : List Char) (offset : Nat) (span : Span) : Prop :=
  ∃ earlier later v source,
    statements = earlier ++ .assign [key] v source :: later
    ∧ earlier.foldl (fun last statement => statement.lastHeader last) last
      = some (.header [tableName])
    ∧ ∃ before between ending after fuel,
      text = before ++ (between ++ (source ++ (ending ++ after)))
      ∧ (∀ c ∈ between, isBlankChar c = true) ∧ LineEnd ending after
      ∧ value? fuel nestingLimit (source ++ (ending ++ after)) = some (v, ending ++ after)
      ∧ span = ⟨offset + byteLength before + (byteLength (between ++ (source ++ ending))
          - byteLength (trimStart (between ++ (source ++ ending)))),
        byteLength (trim (between ++ (source ++ ending)))⟩

section Scan

variable {tableName keyName : String} {last : Option Statement} {statements : List Statement}
  {text : List Char}

lemma Located.append_text (line : List Char)
    (h : Located tableName keyName last statements text (offset + byteLength line) span) :
    Located tableName keyName last statements (line ++ text) offset span := by
  obtain ⟨earlier, later, v, source, hstatements, hlast, before, between, ending, after, fuel, rfl,
    hbetween, hend, hvalue, rfl⟩ := h
  refine ⟨earlier, later, v, source, hstatements, hlast, line ++ before, between, ending, after,
    fuel, (List.append_assoc ..).symm, hbetween, hend, hvalue, ?_⟩
  rw [byteLength_append line before, Nat.add_assoc offset]

lemma Located.cons_statement {statement : Statement}
    (h : Located tableName keyName (statement.lastHeader last) statements text offset span) :
    Located tableName keyName last (statement :: statements) text offset span := by
  obtain ⟨earlier, later, v, source, rfl, hlast, hrest⟩ := h
  exact ⟨statement :: earlier, later, v, source, rfl, hlast, hrest⟩

/-- **The line that is found assigns the key under the header of the table.** -/
theorem located_of_spanIn (last : Option Statement) (htable : IsBare tableName)
    (hkey : IsBare keyName) (hlaid : Laid lines statements)
    (hunder : inTable = true → last = some (.header [tableName]))
    (h : spanIn ('[' :: tableName.toList ++ [']']) keyName.toList inTable offset lines
      = some span) :
    Located tableName keyName last statements lines.flatten offset span := by
  induction hlaid generalizing inTable last offset with
  | nil => simp [spanIn] at h
  | @remark line lines statements hline hrest ih =>
    exact (ih _ hunder (spanIn_lineEnd hline hkey.2 h)).append_text line
  | @statement blanks body ending lines statement statements hblanks hread hending hrest ih =>
    have hskip : ∀ {inTable'}, (inTable' = true →
          statement.lastHeader last = some (.header [tableName])) →
        spanIn ('[' :: tableName.toList ++ [']']) keyName.toList inTable'
          (offset + byteLength (blanks ++ (body ++ ending))) lines = some span →
        Located tableName keyName last (statement :: statements)
          ((blanks ++ (body ++ ending)) :: lines).flatten offset span := by
      intro inTable' hunder' hspan
      exact (ih _ hunder' hspan).cons_statement.append_text (blanks ++ (body ++ ending))
    rcases statement?_cases hread with
      ⟨rest, hbody, ⟨read, rfl, -⟩, hnot⟩ | ⟨path, v, source, fuel, rfl, hassigned, hvalue⟩
    · -- a header decides whether the following lines are of the table
      obtain rfl : body = '[' :: read := (List.append_left_inj (ending ++ lines.flatten)).1 hbody
      have hhead : (trim (blanks ++ ('[' :: read ++ ending))).head? = some '[' :=
        head?_trim (allBlank_of_blanks hblanks) (by decide)
      rw [spanIn_header hhead] at h
      refine hskip (fun htrim => ?_) h
      obtain rfl := statement_of_trim hblanks htable.1 htable.2 hread (eq_of_beq htrim)
      rw [String.ofList_toList]
      rfl
    · have hhead := head?_trim_of_assignedKey? hblanks hassigned
      rcases spanIn_cons hhead h with hrest' | ⟨hin, name, value, hline, -, htrim, rfl⟩
      · exact hskip hunder hrest'
      · obtain ⟨rfl, between, hbetween, rfl⟩ :=
          assign_of_trim hblanks hkey.1 hkey.2 hline htrim hassigned
        refine ⟨[], statements, v, source, by rw [String.ofList_toList]; rfl, hunder hin,
          name ++ ['='], between, ending, lines.flatten, fuel, ?_, hbetween, hending, hvalue, ?_⟩
        · rw [List.flatten_cons, hline]
          simp
        · rw [byteLength_append name ['='], Nat.add_assoc offset]
          rfl

/-- In front of the first line a byte order mark only hides that line. -/
lemma located_of_mark {cs : List Char} (htable : IsBare tableName) (hkey : IsBare keyName)
    (hlaid : Laid (Text.lines cs) statements)
    (h : spanIn ('[' :: tableName.toList ++ [']']) keyName.toList false 0
      (Text.lines ('\uFEFF' :: cs)) = some span) :
    Located tableName keyName none statements ('\uFEFF' :: cs) 0 span := by
  rw [Text.lines, if_neg (by decide)] at h
  cases hlines : Text.lines cs with
  | nil => simp [hlines, spanIn] at h
  | cons first rest =>
    have hhead : (trim ('\uFEFF' :: first)).head? ≠ some '[' := by
      have hmark : (trim ([] ++ '\uFEFF' :: first)).head? = some '\uFEFF' :=
        head?_trim rfl (by decide)
      rw [List.nil_append] at hmark
      rw [hmark]
      decide
    have hrest : ∀ last statements, Laid rest statements →
        Located tableName keyName last statements rest.flatten
          (0 + byteLength ('\uFEFF' :: first)) span := by
      intro last statements hlaid
      rw [hlines] at h
      rcases spanIn_cons hhead h with h | ⟨hin, -⟩
      · exact located_of_spanIn last htable hkey hlaid (by simp) h
      · contradiction
    have htext : ('\uFEFF' :: first) ++ rest.flatten = '\uFEFF' :: cs := by
      rw [List.cons_append, ← List.flatten_cons, ← hlines, flatten_lines]
    rw [← htext]
    rw [hlines] at hlaid
    cases hlaid with
    | remark _ hlaid => exact (hrest none _ hlaid).append_text _
    | statement _ _ _ hlaid => exact (hrest _ _ hlaid).cons_statement.append_text _

/-- **What is found in a text whose values are each on one line.** -/
theorem located_of_valueSpan? {text : String} (htable : IsBare tableName) (hkey : IsBare keyName)
    (hstatements : statements? text = some statements) (hone : OneLine statements)
    (h : valueSpan? text tableName keyName = some span) :
    Located tableName keyName none statements text.toList 0 span := by
  rw [statements?] at hstatements
  have hlaid := laid_of_statementsWithin? hstatements hone
  rw [valueSpan?] at h
  cases hmark : stripLead ['\uFEFF'] text.toList with
  | none =>
    rw [hmark, Option.getD_none] at hlaid
    have hlocated := located_of_spanIn none htable hkey hlaid (by simp) h
    rwa [flatten_lines] at hlocated
  | some cs =>
    rw [hmark, Option.getD_some] at hlaid
    have htext : text.toList = '\uFEFF' :: cs := stripLead_eq_some_iff.1 hmark
    rw [htext] at h ⊢
    exact located_of_mark htable hkey hlaid h

end Scan

end ApiSurvey.Settings
