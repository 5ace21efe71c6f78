import ApiSurvey.Proofs.Text.Lowercase

/-!
# Case on ASCII texts

On the characters of ASCII the full mapping to small letters is the one of the ASCII letters alone.
A text that differs from one in ASCII by the case of ASCII letters only is in ASCII as well, so its
full lowercase form tells which texts it equals up to case.
-/

namespace ApiSurvey.Text

variable {before cs a b : List Char} {c : Char}

lemma eqAsciiCase_iff : eqAsciiCase a b = true ↔ asciiLower a = asciiLower b := by
  rw [eqAsciiCase, beq_iff_eq]

/-! ## Capital letters -/

/-- The run of the capitals of ASCII, the first that lowercasing and folding move. -/
def asciiCapitals : CaseRun := ⟨0x41, 0x5A, 1, 32⟩

lemma covers_asciiCapitals :
    asciiCapitals.covers c.toNat = true ↔ 0x41 ≤ c.toNat ∧ c.toNat ≤ 0x5A := by
  rw [CaseRun.covers_iff]
  show 0x41 ≤ c.toNat ∧ c.toNat ≤ 0x5A ∧ (c.toNat - 0x41) % 1 = 0 ↔ _
  rw [Nat.mod_one]
  exact ⟨fun h => ⟨h.1, h.2.1⟩, fun h => ⟨h.1, h.2, rfl⟩⟩

/-- Lowercasing moves no other characters of ASCII. -/
lemma asciiCapitals_only :
    ∀ run ∈ (movedRuns lowercaseRuns lowercaseExpansions).tail, 128 ≤ run.first := by
  have hall : ((movedRuns lowercaseRuns lowercaseExpansions).tail.all
      fun run => decide (128 ≤ run.first)) = true := by decide
  exact fun run hrun => of_decide_eq_true (List.all_eq_true.1 hall run hrun)

lemma covers_of_isCapital (h : c.toNat < 128) (hc : isCapital c = true) :
    asciiCapitals.covers c.toNat = true := by
  by_contra hcovers
  have hsmall : lowercaseChar c = [c] := by
    refine mapCase_eq_self fun run hrun => Bool.eq_false_iff.2 fun hrun' => ?_
    rcases List.mem_cons.1 hrun with rfl | hrun
    · exact hcovers hrun'
    · have hfirst := asciiCapitals_only run hrun
      have hle := (CaseRun.covers_iff.1 hrun').1
      omega
  rw [isCapital_eq_false_iff.2 hsmall] at hc
  contradiction

section

variable (h : asciiCapitals.covers c.toNat = true)

include h

lemma toNat_asciiSmall :
    (Char.ofNat (asciiCapitals.target c.toNat)).toNat = asciiCapitals.target c.toNat :=
  toNat_ofNat (CaseRun.isValidChar_target (by decide) h)

lemma lowercaseChar_ascii : lowercaseChar c = [.ofNat (asciiCapitals.target c.toNat)] :=
  mapCase_cons h

lemma toLower_of_covers : c.toLower = .ofNat (asciiCapitals.target c.toNat) := by
  obtain ⟨hfirst, hlast⟩ := covers_asciiCapitals.1 h
  have hcapital : 'A'.val ≤ c.val ∧ c.val ≤ 'Z'.val := ⟨hfirst, hlast⟩
  have hlower : c.toLower.toNat = (c.val + 32).toNat := congrArg Char.toNat (dif_pos hcapital)
  have hsum : c.toNat + 32 < 2 ^ 32 := by omega
  refine Char.toNat_inj.1 ?_
  rw [toNat_asciiSmall h, hlower, UInt32.toNat_add]
  exact Nat.mod_eq_of_lt hsum

end

lemma toLower_of_not_covers (h : ¬ asciiCapitals.covers c.toNat = true) : c.toLower = c := by
  have hcapital : ¬ ('A'.val ≤ c.val ∧ c.val ≤ 'Z'.val) := fun hc =>
    h (covers_asciiCapitals.2 hc)
  exact dif_neg hcapital

/-! ## Small letters -/

lemma lowercaseChar_eq_toLower (h : c.toNat < 128) : lowercaseChar c = [c.toLower] := by
  by_cases hcovers : asciiCapitals.covers c.toNat = true
  · rw [lowercaseChar_ascii hcovers, toLower_of_covers hcovers]
  · have hcapital : isCapital c = false :=
      Bool.eq_false_iff.2 fun hc => hcovers (covers_of_isCapital h hc)
    rw [isCapital_eq_false_iff.1 hcapital, toLower_of_not_covers hcovers]

lemma isBlank_toLower : isBlank c.toLower = isBlank c := by
  by_cases hcovers : asciiCapitals.covers c.toNat = true
  · have hrange := covers_asciiCapitals.1 hcovers
    have hsmall : c.toLower.toNat = c.toNat + 32 := by
      rw [toLower_of_covers hcovers, toNat_asciiSmall hcovers]
      rfl
    rw [isBlank_of_range (by omega), isBlank_of_range (by omega)]
  · rw [toLower_of_not_covers hcovers]

/-- No character outside of ASCII becomes one of ASCII. -/
lemma toNat_lt_of_toLower (h : c.toLower.toNat < 128) : c.toNat < 128 := by
  by_cases hcovers : asciiCapitals.covers c.toNat = true
  · have hrange := covers_asciiCapitals.1 hcovers
    omega
  · rwa [toLower_of_not_covers hcovers] at h

lemma lowercase_eq_asciiLower (h : ∀ c ∈ cs, c.toNat < 128) : lowercase cs = asciiLower cs := by
  have hsigma : 'Σ' ∉ cs := fun hmem => absurd (h _ hmem) (by decide)
  rw [lowercase, lowercaseAfter_eq_flatMap hsigma, asciiLower, List.map_eq_flatMap]
  exact List.flatMap_congr fun c hc => lowercaseChar_eq_toLower (h c hc)

end ApiSurvey.Text
