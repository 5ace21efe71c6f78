import ApiSurvey.Proofs.Settings.Location

/-!
# The line of a setting

What is found for a key of a table, in any text: the first line that gives the key a value and of
whose preceding headings the last is that of the table.  The span lies between characters of the
text and holds what follows the first equals sign of that line, trimmed; where only blanks follow,
it is empty and stands at the end of the line, the line break included.
-/

namespace ApiSurvey.Settings

open Text

/-! ## Lines that are settings -/

/-- A line begins with a bracket, blanks aside. -/
def IsHeading (line : List Char) : Prop :=
  (trim line).head? = some '['

instance (line : List Char) : Decidable (IsHeading line) :=
  inferInstanceAs (Decidable ((trim line).head? = some '['))

/-- The header of a table. -/
def headerOf (tableName : String) : List Char :=
  '[' :: tableName.toList ++ [']']

/-- Of the headings among some lines the last is the header, blanks aside. -/
def Under (header : List Char) (lines : List (List Char)) : Prop :=
  ((lines.filter (IsHeading ·)).map trim).getLast? = some header

/-- A line gives the key a value: the key stands before its first equals sign, the value after
it. -/
structure Gives (key line name value : List Char) : Prop where
  noHeading : ¬ IsHeading line
  eq_append : line = name ++ '=' :: value
  firstSign : '=' ∉ name
  key : trim name = key

/-- A line that comes after the lines `seen` gives a value to the key of the table. -/
def IsSetting (header key : List Char) (seen : List (List Char)) (line : List Char) : Prop :=
  Under header seen ∧ ∃ name value, Gives key line name value

/-- None of the lines that come after the lines `seen` is a setting. -/
def NoSetting (header key : List Char) (seen lines : List (List Char)) : Prop :=
  ∀ before line after, lines = before ++ line :: after →
    ¬ IsSetting header key (seen ++ before) line

variable {header key line name value : List Char} {seen lines : List (List Char)} {inTable : Bool}
  {offset : Nat} {span : Span}

lemma not_under_nil (header : List Char) : ¬ Under header [] := by
  simp [Under]

/-- After a heading the table is that of the heading. -/
lemma under_concat_of_heading (h : IsHeading line) :
    Under header (seen ++ [line]) ↔ trim line = header := by
  simp [Under, h]

/-- After any other line the table is the same. -/
lemma under_concat_of_not_heading (h : ¬ IsHeading line) :
    Under header (seen ++ [line]) ↔ Under header seen := by
  simp [Under, h]

lemma noSetting_nil : NoSetting header key seen [] := by
  simp [NoSetting]

lemma noSetting_cons : NoSetting header key seen (line :: lines)
    ↔ ¬ IsSetting header key seen line ∧ NoSetting header key (seen ++ [line]) lines := by
  constructor
  · intro h
    refine ⟨by simpa using h [] line lines rfl, fun before other after hlines => ?_⟩
    simpa using h (line :: before) other after (by rw [hlines, List.cons_append])
  · rintro ⟨hline, hlines⟩ before other after heq
    cases before with
    | nil =>
      obtain ⟨rfl, -⟩ := List.cons.inj heq
      simpa using hline
    | cons first before =>
      obtain ⟨rfl, hrest⟩ := List.cons.inj heq
      simpa using hlines before other after hrest

/-! ## What is found -/

/-- The first setting among the lines after `seen` is found where it stands. -/
structure FoundAt (header key : List Char) (seen lines before : List (List Char))
    (line name value : List Char) (span : Span) : Prop where
  split : ∃ after, lines = before ++ line :: after
  under : Under header (seen ++ before)
  gives : Gives key line name value
  first : NoSetting header key seen before
  span_eq : span = ⟨byteLength (seen ++ before).flatten + byteLength name + 1
    + (byteLength value - byteLength (trimStart value)), byteLength (trim value)⟩

/-- One line on, nothing changes but that the line is seen. -/
lemma FoundAt.cons {before : List (List Char)} {other : List Char}
    (h : FoundAt header key (seen ++ [other]) lines before line name value span)
    (hother : ¬ IsSetting header key seen other) :
    FoundAt header key seen (other :: lines) (other :: before) line name value span where
  split := by
    obtain ⟨after, rfl⟩ := h.split
    exact ⟨after, rfl⟩
  under := by simpa using h.under
  gives := h.gives
  first := noSetting_cons.2 ⟨hother, h.first⟩
  span_eq := by simpa using h.span_eq

/-- A line that is no setting is passed over, and the flag then says of the next line whether the
last heading before it is the header. -/
lemma exists_spanIn_eq (lines : List (List Char)) (hin : inTable = true ↔ Under header seen)
    (hline : ¬ IsSetting header key seen line) :
    ∃ inTable', (inTable' = true ↔ Under header (seen ++ [line]))
      ∧ spanIn header key inTable (byteLength seen.flatten) (line :: lines)
        = spanIn header key inTable' (byteLength (seen ++ [line]).flatten) lines := by
  have hoffset : byteLength (seen ++ [line]).flatten
      = byteLength seen.flatten + byteLength line := by
    rw [List.flatten_concat, byteLength_append]
  rw [hoffset]
  by_cases hheading : IsHeading line
  · exact ⟨trim line == header, by rw [under_concat_of_heading hheading, beq_iff_eq],
      spanIn_header hheading⟩
  · refine ⟨inTable, by rw [under_concat_of_not_heading hheading, hin], ?_⟩
    exact spanIn_passed hheading fun htable name value heq hsign hkey =>
      hline ⟨hin.1 htable, name, value, hheading, heq, hsign, hkey⟩

/-- **Line by line, the first setting is found, or there is none.** -/
lemma spanIn_cases (hin : inTable = true ↔ Under header seen) :
    (spanIn header key inTable (byteLength seen.flatten) lines = none
        ∧ NoSetting header key seen lines)
      ∨ ∃ before line name value span,
        spanIn header key inTable (byteLength seen.flatten) lines = some span
        ∧ FoundAt header key seen lines before line name value span := by
  induction lines generalizing seen inTable with
  | nil => exact .inl ⟨rfl, noSetting_nil⟩
  | cons line lines ih =>
    by_cases hfound : IsSetting header key seen line
    · obtain ⟨hunder, name, value, hgives⟩ := hfound
      obtain rfl : inTable = true := hin.2 hunder
      exact .inr ⟨[], line, name, value, _,
        spanIn_found hgives.noHeading hgives.eq_append hgives.firstSign hgives.key,
        ⟨lines, rfl⟩, by simpa using hunder, hgives, noSetting_nil, by rw [List.append_nil]⟩
    · obtain ⟨inTable', hin', hpass⟩ := exists_spanIn_eq lines hin hfound
      rw [hpass]
      rcases ih hin' with ⟨hnone, hrest⟩ | ⟨before, other, name, value, span, hsome, hat⟩
      · exact .inl ⟨hnone, noSetting_cons.2 ⟨hfound, hrest⟩⟩
      · exact .inr ⟨line :: before, other, name, value, span, hsome, hat.cons hfound⟩

/-! ## What the span holds -/

lemma byteLength_eq_utf8ByteSize (cs : List Char) :
    byteLength cs = (String.ofList cs).utf8ByteSize := by
  induction cs with
  | nil => rfl
  | cons c cs ih =>
    rw [byteLength_cons, ih, String.ofList_cons, String.utf8ByteSize_append,
      String.utf8ByteSize_singleton]

/-- A span of a text holds a piece: it begins and ends between characters of the text, and the bytes
in it are those of the piece. -/
structure Span.Holds (span : Span) (text piece : String) : Prop where
  start_isValid : (⟨span.start⟩ : String.Pos.Raw).IsValid text
  stop_isValid : (⟨span.start + span.length⟩ : String.Pos.Raw).IsValid text
  bytes : text.toByteArray.extract span.start (span.start + span.length) = piece.toByteArray

lemma extract_middle (a b c : ByteArray) :
    (a ++ (b ++ c)).extract a.size (a.size + b.size) = b := by
  have hskip : (a ++ (b ++ c)).extract (a.size + 0) (a.size + b.size)
      = (b ++ c).extract 0 b.size := ByteArray.extract_append_size_add
  rw [Nat.add_zero] at hskip
  rw [hskip, ByteArray.extract_append_eq_left rfl]

lemma Span.Covers.holds {text : String} {piece : List Char} (h : span.Covers text.toList piece) :
    span.Holds text (.ofList piece) := by
  obtain ⟨before, after, htext, hstart, hlength⟩ := h
  have htext' : text = .ofList before ++ (.ofList piece ++ .ofList after) := by
    rw [← String.ofList_append, ← String.ofList_append, ← htext, String.ofList_toList]
  have hstop : span.start + span.length = (String.ofList (before ++ piece)).utf8ByteSize := by
    rw [← byteLength_eq_utf8ByteSize, byteLength_append, hstart, hlength]
  rw [byteLength_eq_utf8ByteSize] at hstart hlength
  refine ⟨?_, ?_, ?_⟩
  · exact String.Pos.Raw.isValid_iff_exists_append.2
      ⟨_, _, htext', String.Pos.Raw.ext hstart⟩
  · refine String.Pos.Raw.isValid_iff_exists_append.2
      ⟨.ofList (before ++ piece), .ofList after, ?_, String.Pos.Raw.ext hstop⟩
    rw [htext', String.ofList_append, String.append_assoc]
  · rw [hstart, hlength, htext', String.toByteArray_append, String.toByteArray_append]
    exact extract_middle _ _ _

/-- What trimming takes off a value: from one of blanks all in front, from any other at both
ends. -/
lemma exists_eq_trim (value : List Char) : ∃ blanks rest,
    value = blanks ++ (trim value ++ rest) ∧ allBlank blanks = true ∧ allBlank rest = true
      ∧ (trim value = [] → rest = [])
      ∧ byteLength value - byteLength (trimStart value) = byteLength blanks := by
  obtain ⟨rest, hrest, hstart⟩ := exists_trimStart_eq value
  have hvalue : value.takeWhile isBlank ++ trimStart value = value :=
    List.takeWhile_append_dropWhile
  refine ⟨value.takeWhile isBlank, rest, ?_, ?_, hrest, fun hempty => ?_, ?_⟩
  · rw [← hstart, hvalue]
  · exact allBlank_iff.2 fun c hc => List.mem_takeWhile_imp hc
  · have hblank : allBlank value = true := by
      refine allBlank_iff.2 fun c hc => ?_
      by_contra hnot
      have hmem : c ∈ trim value := mem_trim hc (Bool.eq_false_iff.2 hnot)
      rw [hempty] at hmem
      exact absurd hmem List.not_mem_nil
    rw [trimStart_eq_nil_iff.2 hblank, hempty] at hstart
    exact hstart.symm
  · have hlength := congrArg byteLength hvalue
    rw [byteLength_append] at hlength
    omega

/-- A setting that is found is covered where its value begins. -/
lemma FoundAt.covers {text : List Char} {before : List (List Char)}
    (h : FoundAt header key [] (Text.lines text) before line name value span) :
    ∃ blanks rest, value = blanks ++ (trim value ++ rest) ∧ allBlank blanks = true
      ∧ allBlank rest = true ∧ (trim value = [] → rest = [])
      ∧ span.start = byteLength (before.flatten ++ (name ++ '=' :: blanks))
      ∧ span.Covers text (trim value) := by
  obtain ⟨after, hlines⟩ := h.split
  obtain ⟨blanks, rest, hvalue, hblanks, hrest, hempty, hlength⟩ := exists_eq_trim value
  have htext : text = before.flatten ++ (name ++ '=' :: blanks) ++ (trim value
      ++ (rest ++ after.flatten)) := by
    conv_lhs => rw [← flatten_lines text, hlines, h.gives.eq_append, hvalue]
    simp
  have hstart : span.start = byteLength (before.flatten ++ (name ++ '=' :: blanks)) := by
    have hsign : '='.utf8Size = 1 := rfl
    rw [h.span_eq, hlength, byteLength_append, byteLength_append, byteLength_cons, hsign,
      List.nil_append]
    dsimp only
    omega
  exact ⟨blanks, rest, hvalue, hblanks, hrest, hempty, hstart, _, _, htext, hstart,
    by rw [h.span_eq]⟩

/-- **What is found for a key of a table.**  There is a span just if some line of the text is a
setting, and it is that of the first such line: it lies between characters of the text and holds
what follows the equals sign, trimmed, behind the blanks in front of that; where only blanks follow,
these are all that follows on the line. -/
theorem valueSpan?_firstLine (text tableName key : String) :
    ((valueSpan? text tableName key).isSome = true ↔ ∃ before line after,
        Text.lines text.toList = before ++ line :: after
          ∧ IsSetting (headerOf tableName) key.toList before line)
      ∧ ∀ span, valueSpan? text tableName key = some span →
        ∃ before line after name value blanks rest,
          Text.lines text.toList = before ++ line :: after
          ∧ Under (headerOf tableName) before ∧ Gives key.toList line name value
          ∧ NoSetting (headerOf tableName) key.toList [] before
          ∧ value = blanks ++ (trim value ++ rest) ∧ allBlank blanks = true ∧ allBlank rest = true
          ∧ (trim value = [] → rest = [])
          ∧ span.start = byteLength (before.flatten ++ (name ++ '=' :: blanks))
          ∧ span.Holds text (.ofList (trim value)) := by
  have hscan : valueSpan? text tableName key
      = spanIn (headerOf tableName) key.toList false (byteLength ([] : List (List Char)).flatten)
        (Text.lines text.toList) := rfl
  have hstart : false = true ↔ Under (headerOf tableName) [] :=
    iff_of_false Bool.false_ne_true (not_under_nil _)
  rcases spanIn_cases hstart with ⟨hnone, hno⟩ | ⟨before, line, name, value, span, hsome, hat⟩
  · rw [← hscan] at hnone
    rw [hnone]
    refine ⟨iff_of_false Bool.false_ne_true ?_, nofun⟩
    rintro ⟨before, line, after, hlines, hsetting⟩
    exact hno before line after hlines hsetting
  · rw [← hscan] at hsome
    obtain ⟨after, hlines⟩ := hat.split
    rw [hsome]
    refine ⟨iff_of_true rfl ⟨before, line, after, hlines, hat.under, name, value, hat.gives⟩, ?_⟩
    rintro _ ⟨⟩
    obtain ⟨blanks, rest, hvalue, hblanks, hrest, hempty, hspan, hcovers⟩ := hat.covers
    exact ⟨before, line, after, name, value, blanks, rest, hlines, hat.under, hat.gives, hat.first,
      hvalue, hblanks, hrest, hempty, hspan, hcovers.holds⟩

/-- A value of blanks only: the span is empty, at the end of the line. -/
example : valueSpan? "[reduce]\r\n top_n = \r\nmore" "reduce" "top_n" = some ⟨21, 0⟩ := by decide

end ApiSurvey.Settings
