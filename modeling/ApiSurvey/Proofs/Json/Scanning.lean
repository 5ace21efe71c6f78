import ApiSurvey.Json.Printer
import ApiSurvey.Json.Token
import ApiSurvey.Proofs.Number.Numeral

/-!
# Scanning what is written

The scanner of JSON text reads back what is written of single tokens.  A string ends at its quote,
the escapes within it standing for what was escaped.  A number and a word go on as long as their
characters do, so they are read back if what follows is delimited from them, as it is in a
container.
-/

namespace ApiSurvey

namespace Number

/-- The integers that are held as such: those of a signed or unsigned word of 64 bits. -/
def Fits (n : Int) : Prop :=
  -(Nat.pow 2 63 : Int) ≤ n ∧ n < sizeBound

lemma isWholePart_digits (m : Nat) : isWholePart (digits m) = true := by
  have hdigits : isDigits (digits m) = true := by
    rw [isDigits, Bool.and_eq_true, List.all_eq_true]
    exact ⟨by simpa using digits_ne_nil m, fun _ => isDigit_of_mem_digits⟩
  rw [isWholePart, hdigits, Bool.true_and, Bool.or_eq_true, bne_iff_ne, beq_iff_eq]
  by_cases hlead : (digits m).head? = some '0'
  · rw [digits_of_head? hlead]
    exact .inr rfl
  · exact .inl hlead

lemma splitOnce_digits {p : Char → Bool} (hp : ∀ c, isDigit c = true → p c = false) (m : Nat) :
    Text.splitOnce p (digits m) = none :=
  Text.splitOnce_eq_none_iff.2 fun c hc => hp c (isDigit_of_mem_digits hc)

/-- Digits alone have neither a fraction nor an exponent. -/
lemma ofUnsigned?_digits (negative : Bool) (m : Nat) :
    ofUnsigned? negative (digits m) = ofWhole? negative (digits m) := by
  have hexponent : Text.splitOnce (fun c => c == 'e' || c == 'E') (digits m) = none := by
    refine splitOnce_digits (fun c hc => ?_) m
    rw [Bool.or_eq_false_iff, beq_eq_false_iff_ne, beq_eq_false_iff_ne]
    exact ⟨ne_of_isDigit hc rfl, ne_of_isDigit hc rfl⟩
  have hfraction : Text.splitOnce (· == '.') (digits m) = none :=
    splitOnce_digits (fun _ hc => beq_eq_false_iff_ne.2 (ne_of_isDigit hc rfl)) m
  simp only [ofUnsigned?, hexponent, hfraction, isWholePart_digits, Bool.not_true,
    Bool.false_eq_true, if_false]

lemma ofLiteral?_digits (m : Nat) : ofLiteral? (digits m) = ofWhole? false (digits m) := by
  rw [ofLiteral?, ofUnsigned?_digits]
  intro cs hcs
  exact minus_notMem_digits m (hcs ▸ List.mem_cons_self)

/-- An integer that fits is read from its numeral. -/
lemma ofLiteral?_numeral {n : Int} (h : Fits n) : ofLiteral? (numeral n) = some (integer n) := by
  obtain ⟨hlow, hhigh⟩ := h
  obtain hn | hn : n < 0 ∨ 0 ≤ n := by omega
  · have hbound : 0 < n.natAbs ∧ n.natAbs ≤ Nat.pow 2 63 := by omega
    have hvalue : -(n.natAbs : Int) = n := by omega
    rw [numeral_of_neg hn, ofLiteral?, ofUnsigned?_digits, ofWhole?, readDigits?_digits]
    simp only [Option.bind_eq_bind, Option.bind_some, if_true, if_pos hbound, hvalue]
    rfl
  · have hbound : n.natAbs < sizeBound := by omega
    have hvalue : (n.natAbs : Int) = n := by omega
    rw [numeral_of_nonneg hn, ofLiteral?_digits, ofWhole?, readDigits?_digits]
    simp only [Option.bind_eq_bind, Option.bind_some, Bool.false_eq_true, if_false, if_pos hbound,
      hvalue]
    rfl

end Number

namespace Json.Token

/-- The tokens of a text that is scanned from a mode on. -/
def scanFrom : Mode → List Char → Option (List Token)
  | mode, [] => finish mode
  | mode, c :: cs => do
    let (next, tokens) ← step mode c
    (scanFrom next cs).map (tokens ++ ·)

variable {mode next : Mode} {tokens : List Token} {c : Char} {cs rest read : List Char}

/-- The tokens that are complete are only carried along. -/
lemma scan?_eq (cs : List Char) : scan? cs = scanFrom .between cs := by
  suffices hfrom : ∀ mode read, ((cs.foldlM (fun (state : Mode × List Token) c => do
        let (mode, tokens) ← step state.1 c
        return (mode, tokens.reverse ++ state.2)) (mode, read)).bind fun state =>
          (finish state.1).bind fun tokens => some (state.2.reverse ++ tokens))
      = (scanFrom mode cs).map (read.reverse ++ ·) by
    refine (hfrom .between []).trans ?_
    cases scanFrom .between cs <;> rfl
  induction cs with
  | nil =>
    intro mode read
    rw [scanFrom]
    cases hfinish : finish mode <;> simp [hfinish]
  | cons c cs ih =>
    intro mode read
    rw [List.foldlM_cons, scanFrom]
    cases hstep : step mode c with
    | none => rfl
    | some result =>
      obtain ⟨next, tokens⟩ := result
      refine (ih next (tokens.reverse ++ read)).trans ?_
      simp [Function.comp_def]

lemma scanFrom_cons (h : step mode c = some (next, tokens)) :
    scanFrom mode (c :: cs) = (scanFrom next cs).map (tokens ++ ·) := by
  rw [scanFrom, h]
  rfl

lemma scanFrom_silent (h : step mode c = some (next, [])) :
    scanFrom mode (c :: cs) = scanFrom next cs := by
  rw [scanFrom_cons h]
  exact Option.map_id'

/-! ## Numbers and words -/

/-- What follows goes on with neither a number nor a word. -/
def Delimited (rest : List Char) : Prop :=
  ∀ c ∈ rest.head?, isNumberChar c = false ∧ isLetter c = false

/-- What has been begun is a token if nothing follows that goes on with it. -/
lemma scanFrom_complete {token : Token} (hfinish : finish mode = some [token])
    (hstep : ∀ c, isNumberChar c = false ∧ isLetter c = false →
      step mode c = (start c).map fun result => (result.1, token :: result.2))
    (hrest : Delimited rest) :
    scanFrom mode rest = (scanFrom .between rest).map (token :: ·) := by
  cases rest with
  | nil =>
    rw [scanFrom, hfinish]
    rfl
  | cons c cs =>
    rw [scanFrom, scanFrom, hstep c (hrest c rfl), step]
    cases start c <;> simp [Function.comp_def]

lemma scanFrom_number {n : Number} (hn : Number.ofLiteral? read.reverse = some n)
    (hrest : Delimited rest) :
    scanFrom (.number read) rest = (scanFrom .between rest).map (.scalar (number n) :: ·) := by
  refine scanFrom_complete (by rw [finish, hn]; rfl) (fun c hc => ?_) hrest
  rw [step, hc.1, hn]
  cases start c <;> rfl

lemma scanFrom_word {token : Token} (htoken : ofWord? read.reverse = some token)
    (hrest : Delimited rest) :
    scanFrom (.word read) rest = (scanFrom .between rest).map (token :: ·) := by
  refine scanFrom_complete (by rw [finish, htoken]; rfl) (fun c hc => ?_) hrest
  rw [step, hc.2, htoken]
  cases start c <;> rfl

/-- Characters that only go on with what has been begun. -/
lemma scanFrom_run {mode : List Char → Mode}
    (h : ∀ c ∈ cs, ∀ read, step (mode read) c = some (mode (c :: read), [])) :
    scanFrom (mode read) (cs ++ rest) = scanFrom (mode (cs.reverse ++ read)) rest := by
  induction cs generalizing read with
  | nil => rfl
  | cons c cs ih =>
    obtain ⟨hc, hcs⟩ := List.forall_mem_cons.1 h
    rw [List.cons_append, scanFrom_silent (hc read), ih hcs, List.reverse_cons, List.append_assoc]
    rfl

lemma scanFrom_letters {token : Token} (hstart : step .between c = some (.word [c], []))
    (hletters : cs.all isLetter = true) (htoken : ofWord? (c :: cs) = some token)
    (hrest : Delimited rest) :
    scanFrom .between (c :: cs ++ rest) = (scanFrom .between rest).map (token :: ·) := by
  have hstep : ∀ d ∈ cs, ∀ read, step (.word read) d = some (.word (d :: read), []) :=
    fun d hd read => by rw [step, if_pos (List.all_eq_true.1 hletters d hd)]
  rw [List.cons_append, scanFrom_silent hstart, scanFrom_run hstep]
  refine scanFrom_word ?_ hrest
  simpa using htoken

section

variable {n : Int}

lemma isNumberChar_of_mem_numeral (h : c ∈ numeral n) : isNumberChar c = true := by
  rcases mem_numeral h with rfl | hdigit
  · rfl
  · simp [isNumberChar, hdigit]

lemma step_of_mem_numeral (h : c ∈ numeral n) : step .between c = some (.number [c], []) := by
  rcases mem_numeral h with rfl | hdigit
  · rfl
  · have hspace : isSpace c = false := by
      simp only [isSpace, Bool.or_eq_false_iff, beq_eq_false_iff_ne]
      exact ⟨⟨⟨ne_of_isDigit hdigit rfl, ne_of_isDigit hdigit rfl⟩, ne_of_isDigit hdigit rfl⟩,
        ne_of_isDigit hdigit rfl⟩
    simp [step, start, hspace, hdigit]

/-- **A numeral is scanned as the integer that it writes**, if this fits. -/
lemma scanFrom_numeral (hn : Number.Fits n) (hrest : Delimited rest) :
    scanFrom .between (numeral n ++ rest)
      = (scanFrom .between rest).map (.scalar (number (.integer n)) :: ·) := by
  have hliteral := Number.ofLiteral?_numeral hn
  have hchars : ∀ c ∈ numeral n, ∀ read, step (.number read) c = some (.number (c :: read), []) :=
    fun c hc read => by rw [step, if_pos (isNumberChar_of_mem_numeral hc)]
  have hstart : ∀ c ∈ numeral n, step .between c = some (.number [c], []) :=
    fun _ => step_of_mem_numeral
  cases hcs : numeral n with
  | nil =>
    rw [hcs] at hliteral
    contradiction
  | cons c cs =>
    rw [hcs] at hliteral hchars hstart
    rw [List.cons_append, scanFrom_silent (hstart c List.mem_cons_self),
      scanFrom_run fun d hd => hchars d (List.mem_cons_of_mem c hd)]
    refine scanFrom_number ?_ hrest
    simpa using hliteral

end

/-! ## Strings -/

/-- An escape of one letter. -/
lemma scanFrom_short {d : Char} (h : unescape? d = some c) :
    scanFrom (.string read) ('\\' :: d :: rest) = scanFrom (.string (c :: read)) rest := by
  have hstep : step (.escape read) d = some (.string (c :: read), []) := by
    have hd : (d == 'u') = false := by
      rw [beq_eq_false_iff_ne]
      rintro rfl
      contradiction
    rw [step, hd, h]
    rfl
  rw [scanFrom_silent rfl, scanFrom_silent hstep]

lemma digitValue?_hexDigit : ∀ d < 16, digitValue? 16 (hexDigit d) = some d := by
  decide

/-- An escape by the number of the character. -/
lemma scanFrom_code (hc : c.toNat < 0x20) :
    scanFrom (.string read)
        ('\\' :: 'u' :: '0' :: '0' :: hexDigit (c.toNat / 16) :: hexDigit (c.toNat % 16) :: rest)
      = scanFrom (.string (c :: read)) rest := by
  have hhigh := digitValue?_hexDigit (c.toNat / 16) (by omega)
  have hlow := digitValue?_hexDigit (c.toNat % 16) (by omega)
  have hvalue : (0 * 16 + c.toNat / 16) * 16 + c.toNat % 16 = c.toNat := by omega
  have hend : endCode read none c.toNat = some (.string (c :: read)) := by
    have hhalf : isHighHalf c.toNat = false ∧ isLowHalf c.toNat = false := by
      simp only [isHighHalf, isLowHalf, Bool.and_eq_false_iff, decide_eq_false_iff_not]
      omega
    rw [endCode, hhalf.1, hhalf.2, Char.ofNat_toNat]
    rfl
  have hfirst : step (.code read none 4 0) '0' = some (.code read none 3 0, []) := rfl
  have hsecond : step (.code read none 3 0) '0' = some (.code read none 2 0, []) := rfl
  have hthird : step (.code read none 2 0) (hexDigit (c.toNat / 16))
      = some (.code read none 1 (0 * 16 + c.toNat / 16), []) := by
    rw [step, hhigh]
    rfl
  have hfourth : step (.code read none 1 (0 * 16 + c.toNat / 16)) (hexDigit (c.toNat % 16))
      = some (.string (c :: read), []) := by
    rw [step, hlow, Option.bind_eq_bind, Option.bind_some, hvalue, if_pos (Nat.le_refl 1), hend]
    rfl
  rw [scanFrom_silent rfl, scanFrom_silent rfl, scanFrom_silent hfirst, scanFrom_silent hsecond,
    scanFrom_silent hthird, scanFrom_silent hfourth]

/-- **What a character is written as within a string is scanned as this character.** -/
lemma scanFrom_escape (c : Char) :
    scanFrom (.string read) (escape c ++ rest) = scanFrom (.string (c :: read)) rest := by
  unfold escape
  -- seven characters have an escape of one letter
  iterate 7
    split
    · next h =>
      subst h
      exact scanFrom_short rfl
  split
  · next hc => exact scanFrom_code hc
  · next hquote hbackslash _ _ _ _ _ hc =>
    have hstep : step (.string read) c = some (.string (c :: read), []) := by
      rw [step, if_neg (by simpa using hquote), if_neg (by simpa using hbackslash), if_neg hc]
    exact scanFrom_silent hstep

lemma scanFrom_escapes :
    scanFrom (.string read) (cs.flatMap escape ++ rest)
      = scanFrom (.string (cs.reverse ++ read)) rest := by
  induction cs generalizing read with
  | nil => rfl
  | cons c cs ih =>
    rw [List.flatMap_cons, List.append_assoc, scanFrom_escape, ih, List.reverse_cons,
      List.append_assoc]
    rfl

/-- **A string is scanned as its text.** -/
lemma scanFrom_quote (s : String) :
    scanFrom .between (quote s ++ rest) = (scanFrom .between rest).map (.string s :: ·) := by
  have hclose : step (.string (s.toList.reverse ++ [])) '"' = some (.between, [.string s]) := by
    rw [step, if_pos (beq_self_eq_true _), List.append_nil, List.reverse_reverse,
      String.ofList_toList]
  rw [quote, List.cons_append, List.append_assoc, scanFrom_silent rfl, scanFrom_escapes,
    List.cons_append, List.nil_append, scanFrom_cons hclose]
  rfl

end Json.Token

end ApiSurvey
