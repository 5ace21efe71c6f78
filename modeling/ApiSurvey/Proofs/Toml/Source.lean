import ApiSurvey.Proofs.Text.Trim
import ApiSurvey.Proofs.Toml.Reading

/-!
# How strings and integers are written

A string is written between quotes, and an integer with digits, underscores, a sign and the letter
of its base.  So neither begins or ends with a blank, of whatever kind.
-/

namespace ApiSurvey.Toml

open Text

variable {cs after source : List Char}

/-! ## Blanks of any kind -/

lemma isBlank_of_isBlankChar {c : Char} (h : isBlankChar c = true) : isBlank c = true := by
  rw [isBlankChar, Bool.or_eq_true, beq_iff_eq, beq_iff_eq] at h
  rcases h with rfl | rfl <;> decide

lemma isBlank_of_isKeyChar {c : Char} (h : isKeyChar c = true) : isBlank c = false := by
  have hle : ∀ a b : Char, a ≤ b ↔ a.toNat ≤ b.toNat := fun _ _ => Iff.rfl
  apply isBlank_of_range
  simp only [isKeyChar, isDigit, Bool.or_eq_true, Bool.and_eq_true, decide_eq_true_eq, hle,
    beq_iff_eq] at h
  rcases h with (((h | h) | h) | rfl) | rfl
  · exact ⟨h.1.trans' (by decide), h.2.trans (by decide)⟩
  · exact ⟨h.1.trans' (by decide), h.2.trans (by decide)⟩
  · exact ⟨h.1.trans' (by decide), h.2.trans (by decide)⟩
  · decide
  · decide

lemma skipBlanks_append_sign (before value : List Char) :
    skipBlanks (before ++ '=' :: value) = skipBlanks before ++ '=' :: value := by
  have hsign : ('=' :: value).dropWhile isBlankChar = '=' :: value :=
    List.dropWhile_cons_of_neg (by decide)
  rw [skipBlanks, List.dropWhile_append, hsign]
  split
  · next hnil => rw [skipBlanks, List.isEmpty_iff.1 hnil, List.nil_append]
  · rfl

/-- What is blank up to a sign begins with no character of keys and with no dot. -/
lemma head?_append_sign {before value : List Char} (hbefore : allBlank before = true) :
    ∀ c ∈ (before ++ '=' :: value).head?, isKeyChar c = false ∧ c ≠ '.' := by
  intro c hc
  cases before with
  | nil =>
    obtain rfl : '=' = c := Option.some.inj hc
    exact ⟨by decide, by decide⟩
  | cons d before =>
    obtain rfl : d = c := Option.some.inj hc
    have hblank : isBlank d = true := allBlank_iff.1 hbefore d List.mem_cons_self
    constructor
    · rw [Bool.eq_false_iff]
      intro hkeyChar
      rw [isBlank_of_isKeyChar hkeyChar] at hblank
      contradiction
    · rintro rfl
      exact absurd hblank (by decide)

lemma allBlank_skipBlanks {before : List Char} (h : allBlank before = true) :
    allBlank (skipBlanks before) = true :=
  allBlank_iff.2 fun c hc => allBlank_iff.1 h c ((skipBlanks_suffix before).subset hc)

lemma assignedKey?_skipBlanks (skip? : List Char → Option (List Char)) (cs : List Char) :
    assignedKey? skip? (skipBlanks cs) = assignedKey? skip? cs := by
  have hskip : skipBlanks (skipBlanks cs) = skipBlanks cs := List.dropWhile_idempotent ..
  have hkey : dottedKey? (skipBlanks cs) = dottedKey? cs := by
    show dottedKeyWithin? (79 + 1) (skipBlanks cs) = dottedKeyWithin? (79 + 1) cs
    rw [dottedKeyWithin?, dottedKeyWithin?, hskip]
  rw [assignedKey?, assignedKey?, hkey]

/-- A simple key that is assigned: the value is what follows the first sign, if there are blanks up
to it. -/
lemma assignedKey?_simple {key before value : List Char} {path : List String}
    (hne : key ≠ []) (hkey : ∀ c ∈ key, isKeyChar c = true) (hbefore : allBlank before = true)
    (h : assignedKey? (some ∘ skipBlanks) (key ++ (before ++ '=' :: value)) = some (path, after)) :
    path = [String.ofList key] ∧ after = skipBlanks value := by
  obtain ⟨afterKey, afterSign, hdotted, hsign, hafter⟩ := assignedKey?_eq_some h
  have hdot : (skipBlanks (before ++ '=' :: value)).head? ≠ some '.' := by
    rw [skipBlanks_append_sign]
    exact fun hhead => (head?_append_sign (allBlank_skipBlanks hbefore) _ hhead).2 rfl
  rw [dottedKey?_append hne hkey (fun c hc => (head?_append_sign hbefore c hc).1) hdot] at hdotted
  obtain ⟨rfl, rfl⟩ := Prod.mk.inj (Option.some.inj hdotted)
  refine ⟨rfl, ?_⟩
  have hsign' : skipBlanks (skipBlanks before) ++ '=' :: value = '=' :: afterSign := by
    rw [← skipBlanks_append_sign, ← skipBlanks_append_sign]
    exact Option.some.inj hsign
  -- no blank is a sign, so none is left in front of it
  have hnil : skipBlanks (skipBlanks before) = [] := by
    cases hrest : skipBlanks (skipBlanks before) with
    | nil => rfl
    | cons c cs =>
      have hblank : isBlank c = true := by
        refine allBlank_iff.1 (allBlank_skipBlanks (allBlank_skipBlanks hbefore)) c ?_
        rw [hrest]
        exact List.mem_cons_self
      rw [hrest] at hsign'
      obtain ⟨rfl, -⟩ := List.cons.inj hsign'
      exact absurd hblank (by decide)
  rw [hnil, List.nil_append] at hsign'
  obtain ⟨-, rfl⟩ := List.cons.inj hsign'
  exact (Option.some.inj hafter).symm

/-! ## Integers -/

namespace Scalar

/-- A digit in a base of at most sixteen is not blank. -/
lemma isBlank_of_digit {base : Nat} {c : Char} (hbase : base ≤ 16)
    (h : (digitValue? base c).isSome) : isBlank c = false := by
  have hrange := toNat_of_isSome_digitValue? hbase h
  exact isBlank_of_range (by omega)

/-- Where the digits without underscores can be read, there is no blank among them. -/
lemma isBlank_of_ungrouped {base : Nat} {literal ds : List Char} {negative : Bool} {n : Int}
    (hbase : base ≤ 16)
    (h : integer literal base negative (ungrouped ds) = .integer n) :
    ∀ c ∈ ds, isBlank c = false := by
  intro c hc
  rw [integer] at h
  split at h
  · next m hm =>
    by_cases hunderscore : c = '_'
    · rw [hunderscore]
      decide
    · have hmem : c ∈ ungrouped ds := List.mem_filter.2 ⟨hc, by simpa using hunderscore⟩
      exact isBlank_of_digit hbase (isSome_digitValue?_of_readDigits? hm c hmem)
  · contradiction

lemma radixInteger?_eq_some {base : Nat} {n : Int} (hbase : base ≤ 16)
    (h : radixInteger? base cs = some (.integer n)) : ∀ c ∈ cs.drop 2, isBlank c = false := by
  rw [radixInteger?] at h
  split at h
  · exact isBlank_of_ungrouped hbase (Option.some.inj h)
  · contradiction

lemma decimalInteger?_eq_some {n : Int} (h : decimalInteger? cs = some (.integer n)) :
    cs ≠ [] ∧ ∀ c ∈ cs, isBlank c = false := by
  rw [decimalInteger?] at h
  split at h
  · next hform =>
    have hbody : ∀ c ∈ unsigned cs, isBlank c = false :=
      isBlank_of_ungrouped (by decide) (Option.some.inj h)
    cases cs with
    | nil => simp [unsigned] at hform
    | cons c cs =>
      refine ⟨by simp, ?_⟩
      rw [unsigned] at hbody
      split at hbody
      · next hsign =>
        have hc : isBlank c = false := by
          rw [isSign, Bool.or_eq_true, beq_iff_eq, beq_iff_eq] at hsign
          rcases hsign with rfl | rfl <;> decide
        exact List.forall_mem_cons.2 ⟨hc, hbody⟩
      · exact hbody
  · contradiction

lemma integer?_eq_some {n : Int} (h : integer? cs = some (.integer n)) :
    cs ≠ [] ∧ ∀ c ∈ cs, isBlank c = false := by
  rw [integer?.eq_def] at h
  split at h
  case h_4 => exact decimalInteger?_eq_some h
  all_goals
    have hdigits := radixInteger?_eq_some (by decide) h
    refine ⟨by simp, fun c hc => ?_⟩
    rw [List.mem_cons, List.mem_cons] at hc
    rcases hc with rfl | rfl | hc
    · decide
    · decide
    · exact hdigits c hc

/-- What has the form of an integer is an integer, legible or not. -/
lemma integer_cases (literal : List Char) (base : Nat) (negative : Bool) (ds : List Char) :
    (∃ n, integer literal base negative ds = .integer n)
      ∨ ∃ text, integer literal base negative ds = .illegible text := by
  rw [integer]
  split
  · split
    · exact .inr ⟨_, rfl⟩
    · exact .inl ⟨_, rfl⟩
  · exact .inr ⟨_, rfl⟩

lemma integer?_cases {v : Value} (h : integer? cs = some v) :
    (∃ n, v = .integer n) ∨ ∃ text, v = .illegible text := by
  have hof : ∀ {p : Prop} [Decidable p] {base : Nat} {negative : Bool} {ds : List Char},
      (if p then some (integer cs base negative ds) else none) = some v →
      (∃ n, v = .integer n) ∨ ∃ text, v = .illegible text := by
    intro p _ base negative ds hif
    obtain ⟨-, heq⟩ := Option.ite_none_right_eq_some.1 hif
    rw [← Option.some.inj heq]
    exact integer_cases cs base negative ds
  rw [integer?.eq_def] at h
  split at h
  · exact hof h
  · exact hof h
  · exact hof h
  · exact hof h

end Scalar

/-- A scalar without quotes is an integer by its form, or else no integer. -/
lemma scalar?_cases {v : Value} (h : scalar? cs = some v) :
    Scalar.integer? cs = some v ∨ (∃ b, v = .boolean b) ∨ (∃ text, v = .float text)
      ∨ ∃ text, v = .dateTime text := by
  rw [scalar?] at h
  split at h
  · exact .inr (.inl ⟨true, (Option.some.inj h).symm⟩)
  split at h
  · exact .inr (.inl ⟨false, (Option.some.inj h).symm⟩)
  split at h
  · next w hw => exact .inl (by rw [hw, h])
  split at h
  · exact .inr (.inr (.inl ⟨_, (Option.some.inj h).symm⟩))
  split at h
  · exact .inr (.inr (.inr ⟨_, (Option.some.inj h).symm⟩))
  · contradiction

lemma trimmed_of_forall {cs : List Char} (h : ∀ c ∈ cs, isBlank c = false) : Trimmed cs :=
  ⟨fun c hc => h c (List.mem_of_head? hc), fun c hc => h c (List.mem_of_getLast? hc)⟩

/-- What is between two quotes and the quotes. -/
lemma trimmed_quoted {quote : Char} (hquote : quote = '"' ∨ quote = '\'') (body : List Char) :
    Trimmed (quote :: (body ++ [quote])) := by
  have hblank : isBlank quote = false := by
    rcases hquote with rfl | rfl <;> decide
  constructor
  · intro c hc
    obtain rfl : quote = c := by simpa using hc
    exact hblank
  · intro c hc
    rw [← List.cons_append, List.getLast?_concat] at hc
    obtain rfl : quote = c := by simpa using hc
    exact hblank

/-- How a value that is neither an array nor a table is read. -/
lemma value?_cases {fuel levels : Nat} {v : Value} (h : value? fuel levels cs = some (v, after)) :
    (∃ items, v = .array items) ∨ (∃ members, v = .table members)
      ∨ (∃ text, v = .string text ∧ string? cs = some (text, after))
      ∨ ∃ source, cs = source ++ after ∧ scalar? source = some v := by
  cases fuel with
  | zero => contradiction
  | succ fuel =>
    rw [value?.eq_def] at h
    dsimp only at h
    split at h
    · split at h
      · contradiction
      · obtain ⟨⟨items, rest⟩, -, heq⟩ := Option.map_eq_some_iff.1 h
        exact .inl ⟨items, (Prod.mk.inj heq).1.symm⟩
    · split at h
      · contradiction
      · obtain ⟨⟨entries, rest⟩, -, heq⟩ := Option.map_eq_some_iff.1 h
        exact .inr (.inl ⟨_, (Prod.mk.inj heq).1.symm⟩)
    · obtain ⟨⟨text, rest⟩, hread, heq⟩ := Option.map_eq_some_iff.1 h
      obtain ⟨rfl, rfl⟩ := Prod.mk.inj heq
      exact .inr (.inr (.inl ⟨text, rfl, hread⟩))
    · obtain ⟨⟨text, rest⟩, hread, heq⟩ := Option.map_eq_some_iff.1 h
      obtain ⟨rfl, rfl⟩ := Prod.mk.inj heq
      exact .inr (.inr (.inl ⟨text, rfl, hread⟩))
    · obtain ⟨w, hread, heq⟩ := Option.map_eq_some_iff.1 h
      obtain ⟨rfl, rfl⟩ := Prod.mk.inj heq
      refine .inr (.inr (.inr ⟨Scalar.run cs, ?_, hread⟩))
      exact (List.prefix_iff_eq_append.1 (run_isPrefix cs)).symm

/-- **A string or an integer is written without blanks at its ends.** -/
theorem trimmed_of_value? {fuel levels : Nat} {v : Value}
    (h : value? fuel levels (source ++ after) = some (v, after))
    (hv : (∃ text, v = .string text) ∨ ∃ n, v = .integer n) : source ≠ [] ∧ Trimmed source := by
  rcases value?_cases h with
    ⟨items, rfl⟩ | ⟨members, rfl⟩ | ⟨text, rfl, hread⟩ | ⟨source', heq, hread⟩
  · simp at hv
  · simp at hv
  · obtain ⟨quote, cs, hquote, hcs, body, rfl⟩ := string?_eq_some hread
    have hsource : source = quote :: (body ++ [quote]) :=
      (List.append_left_inj after).1 (by rw [hcs]; simp)
    rw [hsource]
    exact ⟨by simp, trimmed_quoted hquote body⟩
  · obtain rfl : source = source' := List.append_cancel_right heq
    rcases scalar?_cases hread with hinteger | ⟨b, rfl⟩ | ⟨text, rfl⟩ | ⟨text, rfl⟩
    · rcases Scalar.integer?_cases hinteger with ⟨n, rfl⟩ | ⟨text, rfl⟩
      · obtain ⟨hne, hblank⟩ := Scalar.integer?_eq_some hinteger
        exact ⟨hne, trimmed_of_forall hblank⟩
      · simp at hv
    · simp at hv
    · simp at hv
    · simp at hv

end ApiSurvey.Toml
