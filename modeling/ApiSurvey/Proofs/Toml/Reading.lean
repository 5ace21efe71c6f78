import ApiSurvey.Toml.Statement
import Mathlib.Data.List.DropRight
import Mathlib.Tactic.Common

/-!
# What the readers read

A reader goes on from a text to a rest of it.  A key, an equals sign and the blanks around them are
on one line.  A value ends where its rest begins; a string begins and ends with a quote.
-/

namespace ApiSurvey.Toml

/-- What stands in front of `rest` in `cs` has no line break. -/
def OnLine (cs rest : List Char) : Prop :=
  ∃ read, cs = read ++ rest ∧ '\n' ∉ read

namespace OnLine

variable {cs rest rest' : List Char} {c : Char}

lemma refl (cs : List Char) : OnLine cs cs :=
  ⟨[], rfl, List.not_mem_nil⟩

lemma trans (h : OnLine cs rest) (h' : OnLine rest rest') : OnLine cs rest' := by
  obtain ⟨read, rfl, hread⟩ := h
  obtain ⟨read', rfl, hread'⟩ := h'
  refine ⟨read ++ read', (List.append_assoc ..).symm, ?_⟩
  rw [List.mem_append]
  exact fun hmem => hmem.elim hread hread'

lemma cons (hc : c ≠ '\n') (h : OnLine cs rest) : OnLine (c :: cs) rest := by
  obtain ⟨read, rfl, hread⟩ := h
  refine ⟨c :: read, rfl, ?_⟩
  rw [List.mem_cons]
  exact fun hmem => hmem.elim (fun heq => hc heq.symm) hread

lemma one (hc : c ≠ '\n') : OnLine (c :: cs) cs :=
  (refl cs).cons hc

lemma append {read : List Char} (hread : '\n' ∉ read) (rest : List Char) :
    OnLine (read ++ rest) rest :=
  ⟨read, rfl, hread⟩

lemma suffix (h : OnLine cs rest) : rest <:+ cs := by
  obtain ⟨read, rfl, -⟩ := h
  exact List.suffix_append read rest

end OnLine

lemma ne_newline_of_isPlainChar {c : Char} (h : isPlainChar c = true) : c ≠ '\n' := by
  rintro rfl
  exact absurd h (by decide)

lemma ne_newline_of_isBlankChar {c : Char} (h : isBlankChar c = true) : c ≠ '\n' := by
  rintro rfl
  exact absurd h (by decide)

/-- Blanks are skipped, and nothing else. -/
lemma exists_eq_skipBlanks (cs : List Char) :
    ∃ blanks, (∀ c ∈ blanks, isBlankChar c = true) ∧ cs = blanks ++ skipBlanks cs :=
  ⟨cs.takeWhile isBlankChar, fun _ hc => List.mem_takeWhile_imp hc,
    (List.takeWhile_append_dropWhile).symm⟩

lemma not_mem_of_blanks {blanks : List Char} (h : ∀ c ∈ blanks, isBlankChar c = true) :
    '\n' ∉ blanks :=
  fun hmem => ne_newline_of_isBlankChar (h _ hmem) rfl

lemma skipBlanks_onLine (cs : List Char) : OnLine cs (skipBlanks cs) := by
  obtain ⟨blanks, hblanks, hcs⟩ := exists_eq_skipBlanks cs
  exact ⟨blanks, hcs, not_mem_of_blanks hblanks⟩

/-- Where something else is made of what was read, the rest is the same. -/
lemma exists_read_of_map {α β : Type} {read : Option (α × List Char)}
    {f : α × List Char → β × List Char} {b : β} {rest : List Char}
    (h : read.map f = some (b, rest)) (hf : ∀ x, (f x).2 = x.2) : ∃ a, read = some (a, rest) := by
  obtain ⟨x, hx, heq⟩ := Option.map_eq_some_iff.1 h
  have hrest : x.2 = rest := by rw [← hf, heq]
  exact ⟨x.1, by rw [hx, ← hrest]⟩

/-! ## Strings -/

namespace Quoted

variable {cs rest text : List Char} {c : Char}

lemma lineBreak?_eq_some (h : lineBreak? cs = some rest) :
    cs = '\n' :: rest ∨ cs = '\r' :: '\n' :: rest := by
  rw [lineBreak?.eq_def] at h
  split at h
  · exact .inl (by rw [Option.some.inj h])
  · exact .inr (by rw [Option.some.inj h])
  · contradiction

lemma coded?_onLine {width : Nat} (h : coded? width cs = some (c, rest)) : OnLine cs rest := by
  simp only [coded?] at h
  split at h
  · obtain ⟨d, hcode, heq⟩ := Option.map_eq_some_iff.1 h
    obtain ⟨-, rfl⟩ := Prod.mk.inj heq
    rw [ofCode?, Option.bind_eq_bind, Option.bind_eq_some_iff] at hcode
    obtain ⟨n, hn, -⟩ := hcode
    refine ⟨cs.take width, (List.take_append_drop ..).symm, fun hmem => ?_⟩
    have hdigit := isSome_digitValue?_of_readDigits? hn _ hmem
    exact absurd hdigit (by decide)
  · contradiction

lemma escaped?_onLine (h : escaped? cs = some (c, rest)) : OnLine cs rest := by
  rw [escaped?.eq_def] at h
  split at h
  case h_12 => contradiction
  case h_9 | h_10 | h_11 => exact .cons (by decide) (coded?_onLine h)
  all_goals
    obtain ⟨-, rfl⟩ := Prod.mk.inj (Option.some.inj h)
    exact .one (by decide)

/-- A text that goes on after a quote which something is in front of. -/
def ClosedBy (quote : Char) (cs rest : List Char) : Prop :=
  ∃ body, cs = body ++ quote :: rest

lemma ClosedBy.of_suffix {quote : Char} {cs' : List Char} (hsuffix : cs' <:+ cs)
    (h : ClosedBy quote cs' rest) : ClosedBy quote cs rest := by
  obtain ⟨before, rfl⟩ := hsuffix
  obtain ⟨body, rfl⟩ := h
  exact ⟨before ++ body, (List.append_assoc ..).symm⟩

lemma ClosedBy.suffix {quote : Char} (h : ClosedBy quote cs rest) : rest <:+ cs := by
  obtain ⟨body, rfl⟩ := h
  exact (List.suffix_cons quote rest).trans (List.suffix_append body _)

lemma basic?_eq_some {fuel : Nat} (h : basic? fuel cs = some (text, rest)) :
    OnLine cs rest ∧ ClosedBy '"' cs rest := by
  induction fuel, cs using basic?.induct generalizing text with
  | case1 => contradiction
  | case2 fuel cs =>
    rw [basic?] at h
    obtain ⟨-, rfl⟩ := Prod.mk.inj (Option.some.inj h)
    exact ⟨.one (by decide), [], rfl⟩
  | case3 fuel cs ih =>
    rw [basic?, Option.bind_eq_bind, Option.bind_eq_some_iff] at h
    obtain ⟨⟨c, afterEscape⟩, hescaped, h⟩ := h
    obtain ⟨⟨text', rest'⟩, hread, heq⟩ := Option.bind_eq_some_iff.1 h
    obtain ⟨-, rfl⟩ := Prod.mk.inj (Option.some.inj heq)
    obtain ⟨hline, hclosed⟩ := ih _ hread
    have hescape : OnLine ('\\' :: cs) afterEscape := .cons (by decide) (escaped?_onLine hescaped)
    exact ⟨hescape.trans hline, hclosed.of_suffix hescape.suffix⟩
  | case4 fuel c cs hquote hbackslash hplain ih =>
    simp only [basic?, hplain, if_true] at h
    obtain ⟨text', hread⟩ := exists_read_of_map h fun _ => rfl
    obtain ⟨hline, hclosed⟩ := ih hread
    exact ⟨.cons (ne_newline_of_isPlainChar hplain) hline,
      hclosed.of_suffix (List.suffix_cons ..)⟩
  | case5 fuel c cs hquote hbackslash hplain =>
    simp only [basic?, hplain] at h
    contradiction
  | case6 fuel => contradiction

lemma literal?_eq_some (h : literal? cs = some (text, rest)) :
    OnLine cs rest ∧ ClosedBy '\'' cs rest := by
  induction cs generalizing text with
  | nil => contradiction
  | cons c cs ih =>
    rw [literal?] at h
    split at h
    · next hc =>
      obtain ⟨-, rfl⟩ := Prod.mk.inj (Option.some.inj h)
      subst hc
      exact ⟨.one (by decide), [], rfl⟩
    · split at h
      · next hplain =>
        obtain ⟨text', hread⟩ := exists_read_of_map h fun _ => rfl
        obtain ⟨hline, hclosed⟩ := ih hread
        exact ⟨.cons (ne_newline_of_isPlainChar hplain) hline,
          hclosed.of_suffix (List.suffix_cons ..)⟩
      · contradiction

lemma skipBreaks_suffix (cs : List Char) : skipBreaks cs <:+ cs := by
  induction cs using skipBreaks.induct with
  | case1 => exact List.suffix_refl _
  | case2 cs ih =>
    rw [skipBreaks]
    exact ih.trans ⟨['\r', '\n'], rfl⟩
  | case3 c cs hbreak hblank ih =>
    simp only [skipBreaks, hblank, if_true]
    exact ih.trans (List.suffix_cons c cs)
  | case4 c cs hbreak hblank =>
    simp only [skipBreaks, hblank]
    exact List.suffix_refl _

lemma lineBreak?_suffix (h : lineBreak? cs = some rest) : rest <:+ cs := by
  rcases lineBreak?_eq_some h with rfl | rfl
  · exact List.suffix_cons ..
  · exact ⟨['\r', '\n'], rfl⟩

lemma continued?_suffix (h : continued? cs = some rest) : rest <:+ cs := by
  obtain ⟨afterBreak, hbreak, rfl⟩ := Option.map_eq_some_iff.1 h
  have hdropped : cs.dropWhile isBlankChar <:+ cs := List.dropWhile_suffix isBlankChar
  exact (skipBreaks_suffix afterBreak).trans ((lineBreak?_suffix hbreak).trans hdropped)

lemma afterOpening_suffix (cs : List Char) : afterOpening cs <:+ cs := by
  rw [afterOpening]
  cases h : lineBreak? cs with
  | none => exact List.suffix_refl _
  | some rest => exact lineBreak?_suffix h

/-- After some quotes of a run there is the last of them in front of the rest. -/
lemma closedBy_drop {quote : Char} (n : Nat)
    (h : n + 1 ≤ (cs.takeWhile (· == quote)).length) : ClosedBy quote cs (cs.drop (n + 1)) := by
  induction n generalizing cs with
  | zero =>
    cases cs with
    | nil => simp at h
    | cons c cs =>
      by_cases hc : c = quote
      · exact ⟨[], by rw [hc]; rfl⟩
      · simp [hc] at h
  | succ n ih =>
    cases cs with
    | nil => simp at h
    | cons c cs =>
      by_cases hc : c = quote
      · have hrest : n + 1 ≤ (cs.takeWhile (· == quote)).length := by
          simpa [hc] using h
        exact (ih hrest).of_suffix (List.suffix_cons c cs)
      · simp [hc] at h

lemma closing?_eq_some {quote : Char} {quotes : List Char}
    (h : closing? quote cs = some (quotes, rest)) : ClosedBy quote cs rest := by
  simp only [closing?] at h
  split at h
  · contradiction
  · next hrun =>
    obtain ⟨-, rfl⟩ := Prod.mk.inj (Option.some.inj h)
    obtain ⟨n, hn⟩ : ∃ n, min (cs.takeWhile (· == quote)).length 5 = n + 1 :=
      Nat.exists_eq_add_one.2 (by omega)
    rw [hn]
    exact closedBy_drop n (by omega)

lemma multiline?_eq_some {quote : Char} {fuel : Nat}
    (h : multiline? quote fuel cs = some (text, rest)) : ClosedBy quote cs rest := by
  induction fuel generalizing cs text with
  | zero => contradiction
  | succ fuel ih =>
    rw [multiline?.eq_def] at h
    cases hclosing : closing? quote cs with
    | some found =>
      simp only [hclosing] at h
      obtain rfl := Option.some.inj h
      exact closing?_eq_some hclosing
    | none =>
      cases cs with
      | nil => simp [hclosing] at h
      | cons c cs =>
        simp only [hclosing] at h
        -- whatever is read first, the string goes on in a suffix
        split at h
        · cases hcontinued : continued? cs with
          | some next =>
            simp only [hcontinued] at h
            exact (ih h).of_suffix
              ((continued?_suffix hcontinued).trans (List.suffix_cons c cs))
          | none =>
            simp only [hcontinued, Option.bind_eq_bind, Option.bind_eq_some_iff] at h
            obtain ⟨⟨d, next⟩, hescaped, ⟨text', rest'⟩, hread, heq⟩ := h
            obtain ⟨-, rfl⟩ := Prod.mk.inj (Option.some.inj heq)
            exact (ih hread).of_suffix
              ((escaped?_onLine hescaped).suffix.trans (List.suffix_cons c cs))
        · split at h
          · obtain ⟨text', hread⟩ := exists_read_of_map h fun _ => rfl
            exact (ih hread).of_suffix (List.suffix_cons c cs)
          · split at h
            · next next hbreak =>
              obtain ⟨text', hread⟩ := exists_read_of_map h fun _ => rfl
              exact (ih hread).of_suffix (lineBreak?_suffix hbreak)
            · contradiction

end Quoted

open Quoted

variable {cs rest : List Char}

/-- A string on one line begins and ends with the same quote. -/
lemma lineString?_eq_some {text : String} (h : lineString? cs = some (text, rest)) :
    ∃ quote cs', (quote = '"' ∨ quote = '\'') ∧ cs = quote :: cs' ∧ OnLine cs' rest
      ∧ ClosedBy quote cs' rest := by
  rw [lineString?.eq_def] at h
  split at h
  · obtain ⟨text', hread⟩ := exists_read_of_map h fun _ => rfl
    obtain ⟨hline, hclosed⟩ := basic?_eq_some hread
    exact ⟨'"', _, .inl rfl, rfl, hline, hclosed⟩
  · obtain ⟨text', hread⟩ := exists_read_of_map h fun _ => rfl
    obtain ⟨hline, hclosed⟩ := literal?_eq_some hread
    exact ⟨'\'', _, .inr rfl, rfl, hline, hclosed⟩
  · contradiction

/-- A string begins and ends with the same quote. -/
lemma string?_eq_some {text : String} (h : string? cs = some (text, rest)) :
    ∃ quote cs', (quote = '"' ∨ quote = '\'') ∧ cs = quote :: cs' ∧ ClosedBy quote cs' rest := by
  rw [string?.eq_def] at h
  split at h
  · next cs =>
    obtain ⟨text', hread⟩ := exists_read_of_map h fun _ => rfl
    exact ⟨'"', _, .inl rfl, rfl, (multiline?_eq_some hread).of_suffix
      ((afterOpening_suffix cs).trans ⟨['"', '"'], rfl⟩)⟩
  · next cs =>
    obtain ⟨text', hread⟩ := exists_read_of_map h fun _ => rfl
    exact ⟨'\'', _, .inr rfl, rfl, (multiline?_eq_some hread).of_suffix
      ((afterOpening_suffix cs).trans ⟨['\'', '\''], rfl⟩)⟩
  · obtain ⟨quote, cs', hquote, rfl, -, hclosed⟩ := lineString?_eq_some h
    exact ⟨quote, cs', hquote, rfl, hclosed⟩

/-! ## Keys -/

lemma ne_newline_of_isKeyChar {c : Char} (h : isKeyChar c = true) : c ≠ '\n' := by
  rintro rfl
  exact absurd h (by decide)

lemma eq_append_drop_takeWhile (p : Char → Bool) (cs : List Char) :
    cs = cs.takeWhile p ++ cs.drop (cs.takeWhile p).length :=
  (List.prefix_iff_eq_append.1 (List.takeWhile_prefix p)).symm

/-- A simple key begins with a character of keys or a quote, and it is on one line. -/
lemma simpleKey?_eq_some {key : String} (h : simpleKey? cs = some (key, rest)) :
    ∃ c cs', cs = c :: cs' ∧ (isKeyChar c = true ∨ c = '"' ∨ c = '\'') ∧ OnLine cs' rest := by
  rw [simpleKey?.eq_def] at h
  split at h
  · obtain ⟨quote, cs', hquote, rfl, hline, -⟩ := lineString?_eq_some h
    exact ⟨quote, cs', rfl, .inr hquote, hline⟩
  · next hne =>
    obtain ⟨-, rfl⟩ := Prod.mk.inj (Option.some.inj h)
    cases cs with
    | nil => exact absurd rfl hne
    | cons c cs =>
      by_cases hc : isKeyChar c = true
      · refine ⟨c, cs, rfl, .inl hc, cs.takeWhile isKeyChar, ?_, fun hmem => ?_⟩
        · simpa [List.takeWhile_cons, hc] using eq_append_drop_takeWhile isKeyChar cs
        · exact ne_newline_of_isKeyChar (List.mem_takeWhile_imp hmem) rfl
      · exact absurd (List.takeWhile_cons_of_neg hc) hne

/-- After blanks there is the first character of a key, and up to `rest` no line break. -/
def BeginsKey (cs rest : List Char) : Prop :=
  ∃ c cs', skipBlanks cs = c :: cs' ∧ (isKeyChar c = true ∨ c = '"' ∨ c = '\'') ∧ OnLine cs' rest

lemma BeginsKey.trans {rest' : List Char} (h : BeginsKey cs rest) (h' : OnLine rest rest') :
    BeginsKey cs rest' := by
  obtain ⟨c, cs', hcs, hc, hline⟩ := h
  exact ⟨c, cs', hcs, hc, hline.trans h'⟩

lemma BeginsKey.onLine (h : BeginsKey cs rest) : OnLine cs rest := by
  obtain ⟨c, cs', hcs, hc, hline⟩ := h
  have hne : c ≠ '\n' := by
    rcases hc with hc | rfl | rfl
    · exact ne_newline_of_isKeyChar hc
    · decide
    · decide
  refine (skipBlanks_onLine cs).trans ?_
  rw [hcs]
  exact hline.cons hne

lemma beginsKey_of_dottedKeyWithin? {parts : Nat} {path : List String}
    (h : dottedKeyWithin? parts cs = some (path, rest)) : BeginsKey cs rest := by
  induction parts generalizing cs path with
  | zero => contradiction
  | succ parts ih =>
    rw [dottedKeyWithin?, Option.bind_eq_bind, Option.bind_eq_some_iff] at h
    obtain ⟨⟨key, afterKey⟩, hkey, h⟩ := h
    obtain ⟨c, cs', hcs, hc, hline⟩ := simpleKey?_eq_some hkey
    have hbegins : BeginsKey cs (skipBlanks afterKey) :=
      ⟨c, cs', hcs, hc, hline.trans (skipBlanks_onLine afterKey)⟩
    dsimp only at h
    split at h
    · next afterDot hdot =>
      obtain ⟨keys, hread⟩ := exists_read_of_map h fun _ => rfl
      rw [hdot] at hbegins
      exact hbegins.trans (.trans (.one (by decide)) (ih hread).onLine)
    · obtain ⟨-, rfl⟩ := Prod.mk.inj (Option.some.inj h)
      exact hbegins

/-- A key can be followed on its line by what ends it. -/
lemma dottedKey?_append {key : List Char} (hne : key ≠ []) (hkey : ∀ c ∈ key, isKeyChar c = true)
    (hend : ∀ c ∈ rest.head?, isKeyChar c = false) (hdot : (skipBlanks rest).head? ≠ some '.') :
    dottedKey? (key ++ rest) = some ([String.ofList key], skipBlanks rest) := by
  have htake : (key ++ rest).takeWhile isKeyChar = key := by
    rw [List.takeWhile_append_of_pos hkey]
    cases rest with
    | nil => simp
    | cons c rest =>
      rw [List.takeWhile_cons_of_neg (Bool.eq_false_iff.1 (hend c rfl)), List.append_nil]
  have hsimple : simpleKey? (key ++ rest) = some (String.ofList key, rest) := by
    rw [simpleKey?, htake]
    split
    · contradiction
    · rw [List.drop_left]
  have hskip : skipBlanks (key ++ rest) = key ++ rest := by
    obtain ⟨c, cs, rfl⟩ := List.exists_cons_of_ne_nil hne
    refine List.dropWhile_cons_of_neg fun hblank => ?_
    have hc : isKeyChar c = true := hkey c List.mem_cons_self
    rw [isBlankChar, Bool.or_eq_true, beq_iff_eq, beq_iff_eq] at hblank
    rcases hblank with rfl | rfl <;> exact absurd hc (by decide)
  show dottedKeyWithin? (79 + 1) (key ++ rest) = _
  rw [dottedKeyWithin?, hskip, hsimple]
  simp only [Option.bind_eq_bind, Option.bind_some]
  split
  · next heq =>
    rw [heq] at hdot
    exact absurd rfl hdot
  · rfl

/-- The parts of an assigned key: the key, the sign, and what is skipped around it. -/
lemma assignedKey?_eq_some {skip? : List Char → Option (List Char)} {path : List String}
    (h : assignedKey? skip? cs = some (path, rest)) :
    ∃ afterKey afterSign, dottedKey? cs = some (path, afterKey)
      ∧ skip? afterKey = some ('=' :: afterSign) ∧ skip? afterSign = some rest := by
  rw [assignedKey?, Option.bind_eq_bind, Option.bind_eq_some_iff] at h
  obtain ⟨⟨path', afterKey⟩, hkey, h⟩ := h
  obtain ⟨beforeSign, hskip, h⟩ := Option.bind_eq_some_iff.1 h
  split at h
  · next afterSign =>
    obtain ⟨rest', hrest, heq⟩ := Option.map_eq_some_iff.1 h
    obtain ⟨rfl, rfl⟩ := Prod.mk.inj heq
    exact ⟨afterKey, afterSign, hkey, hskip, hrest⟩
  · contradiction

/-- The key and the sign of an assignment are on one line. -/
lemma beginsKey_of_assignedKey? {path : List String}
    (h : assignedKey? (some ∘ skipBlanks) cs = some (path, rest)) : BeginsKey cs rest := by
  obtain ⟨afterKey, afterSign, hkey, hsign, hrest⟩ := assignedKey?_eq_some h
  have hbefore : skipBlanks afterKey = '=' :: afterSign := Option.some.inj hsign
  obtain rfl : skipBlanks afterSign = rest := Option.some.inj hrest
  have hline : OnLine afterKey ('=' :: afterSign) := by
    rw [← hbefore]
    exact skipBlanks_onLine afterKey
  refine (beginsKey_of_dottedKeyWithin? hkey).trans (hline.trans ?_)
  exact .trans (.one (by decide)) (skipBlanks_onLine afterSign)

/-! ## Comments and ends of lines -/

/-- Nothing, or a comment up to the end of its line. -/
def Remark (cs : List Char) : Prop :=
  cs = [] ∨ ∃ comment, cs = '#' :: comment ∧ '\n' ∉ comment

lemma drop_takeWhile_ne (c : Char) (cs : List Char) :
    cs.drop (cs.takeWhile (· != c)).length = []
      ∨ ∃ next, cs.drop (cs.takeWhile (· != c)).length = c :: next := by
  induction cs with
  | nil => exact .inl rfl
  | cons d cs ih =>
    by_cases hd : d = c
    · exact .inr ⟨cs, by simp [hd]⟩
    · simpa [hd] using ih

/-- After a comment there is the end of its line. -/
lemma skipComment?_eq_some (h : skipComment? cs = some rest) :
    cs = rest ∨ ∃ comment, cs = '#' :: (comment ++ rest)
      ∧ '\n' ∉ comment ∧ (rest = [] ∨ ∃ next, rest = '\n' :: next) := by
  rw [skipComment?.eq_def] at h
  split at h
  · next cs =>
    simp only [Option.ite_none_right_eq_some, Option.some.injEq] at h
    obtain ⟨-, rfl⟩ := h
    refine .inr ⟨cs.takeWhile (· != '\n'), ?_, fun hmem => ?_, drop_takeWhile_ne '\n' cs⟩
    · rw [← eq_append_drop_takeWhile]
    · exact absurd (List.mem_takeWhile_imp hmem) (by decide)
  · exact .inl (Option.some.inj h)

lemma skipComment?_suffix (h : skipComment? cs = some rest) : rest <:+ cs := by
  rcases skipComment?_eq_some h with rfl | ⟨comment, rfl, -⟩
  · exact List.suffix_refl _
  · exact (List.suffix_append comment rest).trans (List.suffix_cons ..)

lemma skipBlanks_suffix (cs : List Char) : skipBlanks cs <:+ cs :=
  (skipBlanks_onLine cs).suffix

lemma skipLines?_suffix (h : skipLines? cs = some rest) : rest <:+ cs := by
  rw [skipLines?] at h
  generalize cs.length + 1 = fuel at h
  induction fuel generalizing cs with
  | zero => contradiction
  | succ fuel ih =>
    rw [skipLinesWithin?, Option.bind_eq_bind, Option.bind_eq_some_iff] at h
    obtain ⟨afterComment, hcomment, h⟩ := h
    have hsuffix : afterComment <:+ cs :=
      (skipComment?_suffix hcomment).trans (skipBlanks_suffix cs)
    split at h
    · next next hbreak => exact (ih h).trans ((lineBreak?_suffix hbreak).trans hsuffix)
    · obtain rfl := Option.some.inj h
      exact hsuffix

/-- `cs` is a break, or nothing at the end of the text. -/
def Break (cs rest : List Char) : Prop :=
  cs = ['\n'] ∨ cs = ['\r', '\n'] ∨ (cs = [] ∧ rest = [])

/-- The end of a line in front of `rest`: blanks, maybe a comment, and the break. -/
def LineEnd (cs rest : List Char) : Prop :=
  ∃ blanks remark ending, (∀ c ∈ blanks, isBlankChar c = true) ∧ Remark remark ∧ Break ending rest
    ∧ cs = blanks ++ (remark ++ ending)

/-- After blanks and a comment there is a break or nothing. -/
lemma exists_remark_of_skipComment? (h : skipComment? (skipBlanks cs) = some rest) :
    ∃ blanks remark, (∀ c ∈ blanks, isBlankChar c = true) ∧ Remark remark
      ∧ cs = blanks ++ (remark ++ rest)
      ∧ (remark = [] ∨ rest = [] ∨ ∃ next, rest = '\n' :: next) := by
  obtain ⟨blanks, hblanks, hcs⟩ := exists_eq_skipBlanks cs
  rcases skipComment?_eq_some h with heq | ⟨comment, heq, hcomment, hrest⟩
  · exact ⟨blanks, [], hblanks, .inl rfl, by rw [hcs, heq]; rfl, .inl rfl⟩
  · refine ⟨blanks, '#' :: comment, hblanks, .inr ⟨comment, rfl, hcomment⟩, ?_, .inr hrest⟩
    rw [hcs, heq]
    rfl

lemma break_of_lineBreak? (h : lineBreak? cs = some rest) :
    ∃ closing, closing ≠ [] ∧ Break closing rest ∧ cs = closing ++ rest := by
  rcases lineBreak?_eq_some h with rfl | rfl
  · exact ⟨['\n'], by simp, .inl rfl, rfl⟩
  · exact ⟨['\r', '\n'], by simp, .inr (.inl rfl), rfl⟩

lemma endLine?_eq_some (h : endLine? cs = some rest) :
    ∃ ending, LineEnd ending rest ∧ cs = ending ++ rest := by
  rw [endLine?, Option.bind_eq_bind, Option.bind_eq_some_iff] at h
  obtain ⟨afterComment, hcomment, h⟩ := h
  obtain ⟨blanks, remark, hblanks, hremark, rfl, -⟩ := exists_remark_of_skipComment? hcomment
  obtain ⟨closing, hclosing, rfl⟩ :
      ∃ closing, Break closing rest ∧ afterComment = closing ++ rest := by
    split at h
    · obtain rfl := Option.some.inj h
      exact ⟨[], .inr (.inr ⟨rfl, rfl⟩), rfl⟩
    · obtain ⟨closing, -, hclosing, heq⟩ := break_of_lineBreak? h
      exact ⟨closing, hclosing, heq⟩
  refine ⟨_, ⟨blanks, remark, closing, hblanks, hremark, hclosing, rfl⟩, ?_⟩
  simp only [List.append_assoc]

/-! ## Values -/

lemma words_isPrefix (fresh : Bool) (cs : List Char) : Scalar.words fresh cs <+: cs := by
  induction cs generalizing fresh with
  | nil => exact List.prefix_refl _
  | cons c cs ih =>
    rw [Scalar.words]
    split
    · exact List.prefix_cons_inj c |>.2 (ih true)
    · split
      · exact List.prefix_cons_inj c |>.2 (ih false)
      · exact List.nil_prefix

lemma run_isPrefix (cs : List Char) : Scalar.run cs <+: cs :=
  (List.rdropWhile_prefix isBlankChar _).trans (words_isPrefix true cs)

lemma string?_suffix {text : String} (h : string? cs = some (text, rest)) : rest <:+ cs := by
  obtain ⟨quote, cs', -, rfl, hclosed⟩ := string?_eq_some h
  exact hclosed.suffix.trans (List.suffix_cons ..)

lemma assignedKey?_suffix {path : List String}
    (h : assignedKey? skipLines? cs = some (path, rest)) : rest <:+ cs := by
  obtain ⟨afterKey, afterSign, hkey, hsign, hrest⟩ := assignedKey?_eq_some h
  have hbefore : '=' :: afterSign <:+ cs :=
    (skipLines?_suffix hsign).trans (beginsKey_of_dottedKeyWithin? hkey).onLine.suffix
  exact (skipLines?_suffix hrest).trans ((List.suffix_cons ..).trans hbefore)

mutual

/-- A value ends where its rest begins. -/
lemma value?_suffix (fuel levels : Nat) (cs rest : List Char) (v : Value)
    (h : value? fuel levels cs = some (v, rest)) : rest <:+ cs := by
  cases fuel with
  | zero => contradiction
  | succ fuel =>
    rw [value?.eq_def] at h
    dsimp only at h
    split at h
    · next cs =>
      split at h
      · contradiction
      · obtain ⟨items, hread⟩ := exists_read_of_map h fun _ => rfl
        exact (items?_suffix _ _ _ _ _ hread).trans (List.suffix_cons ..)
    · next cs =>
      split at h
      · contradiction
      · obtain ⟨entries, hread⟩ := exists_read_of_map h fun _ => rfl
        exact (inlineMembers?_suffix _ _ _ _ _ _ hread).trans (List.suffix_cons ..)
    · obtain ⟨text, hread⟩ := exists_read_of_map h fun _ => rfl
      exact string?_suffix hread
    · obtain ⟨text, hread⟩ := exists_read_of_map h fun _ => rfl
      exact string?_suffix hread
    · obtain ⟨v', -, heq⟩ := Option.map_eq_some_iff.1 h
      obtain ⟨-, rfl⟩ := Prod.mk.inj heq
      exact List.drop_suffix ..

lemma items?_suffix (fuel levels : Nat) (cs rest : List Char) (items : List Value)
    (h : items? fuel levels cs = some (items, rest)) : rest <:+ cs := by
  cases fuel with
  | zero => contradiction
  | succ fuel =>
    rw [items?, Option.bind_eq_bind, Option.bind_eq_some_iff] at h
    obtain ⟨first, hfirst, h⟩ := h
    have hsuffix : first <:+ cs := skipLines?_suffix hfirst
    split at h
    · obtain ⟨-, rfl⟩ := Prod.mk.inj (Option.some.inj h)
      exact (List.suffix_cons ..).trans hsuffix
    · obtain ⟨⟨v, afterValue⟩, hvalue, h⟩ := Option.bind_eq_some_iff.1 h
      obtain ⟨separator, hseparator, h⟩ := Option.bind_eq_some_iff.1 h
      have hseparated : separator <:+ cs :=
        (skipLines?_suffix hseparator).trans ((value?_suffix _ _ _ _ _ hvalue).trans hsuffix)
      split at h
      · obtain ⟨items', hread⟩ := exists_read_of_map h fun _ => rfl
        exact (items?_suffix _ _ _ _ _ hread).trans ((List.suffix_cons ..).trans hseparated)
      · obtain ⟨-, rfl⟩ := Prod.mk.inj (Option.some.inj h)
        exact (List.suffix_cons ..).trans hseparated
      · contradiction

lemma inlineMembers?_suffix (fuel levels : Nat) (entries entries' : Entries)
    (cs rest : List Char) (h : inlineMembers? fuel levels entries cs = some (entries', rest)) :
    rest <:+ cs := by
  cases fuel with
  | zero => contradiction
  | succ fuel =>
    rw [inlineMembers?, Option.bind_eq_bind, Option.bind_eq_some_iff] at h
    obtain ⟨first, hfirst, h⟩ := h
    have hsuffix : first <:+ cs := skipLines?_suffix hfirst
    split at h
    · obtain ⟨-, rfl⟩ := Prod.mk.inj (Option.some.inj h)
      exact (List.suffix_cons ..).trans hsuffix
    · obtain ⟨⟨path, afterKey⟩, hkey, h⟩ := Option.bind_eq_some_iff.1 h
      obtain ⟨⟨v, afterValue⟩, hvalue, h⟩ := Option.bind_eq_some_iff.1 h
      obtain ⟨assigned, -, h⟩ := Option.bind_eq_some_iff.1 h
      obtain ⟨separator, hseparator, h⟩ := Option.bind_eq_some_iff.1 h
      have hassigned : afterValue <:+ cs :=
        (value?_suffix _ _ _ _ _ hvalue).trans ((assignedKey?_suffix hkey).trans hsuffix)
      have hseparated : separator <:+ cs := (skipLines?_suffix hseparator).trans hassigned
      split at h
      · exact (inlineMembers?_suffix _ _ _ _ _ _ h).trans
          ((List.suffix_cons ..).trans hseparated)
      · obtain ⟨-, rfl⟩ := Prod.mk.inj (Option.some.inj h)
        exact (List.suffix_cons ..).trans hseparated
      · contradiction

end

end ApiSurvey.Toml
