import ApiSurvey.Text.CaseRun
import Mathlib.Tactic.Common

/-!
# Images of case mappings

A case mapping moves whole runs of code points, and the image of a run is a run again.  A set of
code points is kept as the number that has them as its bits, so that whether the images of a mapping
avoid some code points is one conjunction of two numbers.  A mapping whose images avoid what it
moves has nothing left to do when it is applied again.
-/

namespace ApiSurvey.Text

/-! ## Code points as bits -/

/-- The number with the bits `0, stride, …` of which there are `count`. -/
def spacedBits (stride : Nat) : Nat → Nat
  | 0 => 0
  | count + 1 => spacedBits stride count <<< stride ||| 1

lemma testBit_spacedBits {stride count k : Nat} (h : k < count) :
    (spacedBits stride count).testBit (stride * k) = true := by
  induction count generalizing k with
  | zero => omega
  | succ count ih =>
    rw [spacedBits, Nat.testBit_or, Nat.testBit_shiftLeft]
    cases k with
    | zero => simp
    | succ k =>
      have hstep : stride * (k + 1) - stride = stride * k := by
        rw [Nat.mul_succ, Nat.add_sub_cancel]
      rw [hstep, ih (by omega)]
      simp [Nat.mul_succ]

namespace CaseRun

/-- The run of one code point. -/
def single (code : Nat) : CaseRun :=
  ⟨code, code, 1, 0⟩

/-- The run that a run is mapped onto. -/
def image (run : CaseRun) : CaseRun :=
  ⟨run.target run.first, run.target run.last, run.stride, 0⟩

/-- The run is mapped onto code points of characters, on one side of the surrogates. -/
def onChars (run : CaseRun) : Bool :=
  0 ≤ run.first + run.offset && (run.image.last < 0xD800
    || 0xDFFF < run.image.first && run.image.last < 0x110000)

/-- The code points of a run as the bits of a number. -/
def bits (run : CaseRun) : Nat :=
  spacedBits run.stride ((run.last - run.first) / run.stride + 1) <<< run.first

variable {run : CaseRun} {n : Nat}

lemma covers_iff : run.covers n = true ↔
    run.first ≤ n ∧ n ≤ run.last ∧ (n - run.first) % run.stride = 0 := by
  simp [covers, and_assoc]

lemma covers_single {code : Nat} : (single code).covers n = true ↔ n = code := by
  rw [covers_iff]
  show code ≤ n ∧ n ≤ code ∧ (n - code) % 1 = 0 ↔ n = code
  omega

lemma covers_target (hchars : run.onChars = true) (h : run.covers n = true) :
    run.image.covers (run.target n) = true := by
  obtain ⟨hfirst, hlast, hstride⟩ := covers_iff.1 h
  have hbelow : 0 ≤ run.first + run.offset := by
    simp only [onChars, Bool.and_eq_true, decide_eq_true_eq] at hchars
    exact hchars.1
  have hstep : run.target n - run.target run.first = n - run.first := by
    simp only [target]
    omega
  refine covers_iff.2 ⟨?_, ?_, ?_⟩
  · simp only [image, target]
    omega
  · simp only [image, target]
    omega
  · rw [image, hstep]
    exact hstride

lemma isValidChar_target (hchars : run.onChars = true) (h : run.covers n = true) :
    (run.target n).isValidChar := by
  obtain ⟨hfirst, hlast, -⟩ := covers_iff.1 (covers_target hchars h)
  simp only [onChars, Bool.and_eq_true, Bool.or_eq_true, decide_eq_true_eq] at hchars
  simp only [Nat.isValidChar]
  omega

lemma testBit_bits (h : run.covers n = true) : run.bits.testBit n = true := by
  obtain ⟨hfirst, hlast, hstride⟩ := covers_iff.1 h
  have hn : n - run.first = run.stride * ((n - run.first) / run.stride) :=
    (Nat.mul_div_cancel' (Nat.dvd_of_mod_eq_zero hstride)).symm
  have hcount : (n - run.first) / run.stride < (run.last - run.first) / run.stride + 1 :=
    Nat.lt_succ_of_le (Nat.div_le_div_right (by omega))
  rw [bits, Nat.testBit_shiftLeft, decide_eq_true hfirst, Bool.true_and, hn]
  exact testBit_spacedBits hcount

end CaseRun

/-- The code points of some runs as the bits of a number. -/
def bitsOf (runs : List CaseRun) : Nat :=
  runs.foldr (fun run bits => run.bits ||| bits) 0

lemma testBit_bitsOf {runs : List CaseRun} {run : CaseRun} {n : Nat} (hrun : run ∈ runs)
    (h : run.covers n = true) : (bitsOf runs).testBit n = true := by
  induction runs with
  | nil => contradiction
  | cons other runs ih =>
    have hbits : bitsOf (other :: runs) = other.bits ||| bitsOf runs := rfl
    rw [hbits, Nat.testBit_or]
    rcases List.mem_cons.1 hrun with rfl | hrun
    · rw [CaseRun.testBit_bits h, Bool.true_or]
    · rw [ih hrun, Bool.or_true]

/-- Runs without a bit in common have no code point in common. -/
lemma covers_eq_false_of_disjoint {runs others : List CaseRun} {run other : CaseRun} {n : Nat}
    (hdisjoint : bitsOf runs &&& bitsOf others = 0) (hrun : run ∈ runs) (hother : other ∈ others)
    (h : run.covers n = true) : other.covers n = false := by
  refine Bool.eq_false_iff.2 fun h' => ?_
  have hbit : (bitsOf runs &&& bitsOf others).testBit n = true := by
    rw [Nat.testBit_and, testBit_bitsOf hrun h, testBit_bitsOf hother h', Bool.true_and]
  rw [hdisjoint, Nat.zero_testBit] at hbit
  contradiction

/-! ## Images that avoid some runs -/

variable {runs avoided : List CaseRun} {expansions : List CaseExpansion} {c d : Char}

/-- The code points that a mapping moves, as runs. -/
def movedRuns (runs : List CaseRun) (expansions : List CaseExpansion) : List CaseRun :=
  runs ++ expansions.map fun expansion => .single expansion.1

/-- The code points that a mapping puts in the place of those that it moves, as runs. -/
def imageRuns (runs : List CaseRun) (expansions : List CaseExpansion) : List CaseRun :=
  runs.map CaseRun.image ++ (expansions.flatMap Prod.snd).map CaseRun.single

/-- What a mapping puts in the place of a character are characters, and none of `avoided`. -/
structure ImagesAvoid (runs : List CaseRun) (expansions : List CaseExpansion)
    (avoided : List CaseRun) : Prop where
  onChars : ∀ run ∈ runs, run.onChars = true
  isValidChar : ∀ code ∈ expansions.flatMap Prod.snd, code.isValidChar
  disjoint : bitsOf (imageRuns runs expansions) &&& bitsOf avoided = 0

lemma toNat_ofNat {n : Nat} (h : n.isValidChar) : (Char.ofNat n).toNat = n := by
  rw [Char.ofNat, dif_pos h]
  rfl

lemma mapCase_eq_self (h : ∀ run ∈ movedRuns runs expansions, run.covers c.toNat = false) :
    mapCase runs expansions c = [c] := by
  have hruns : runs.find? (·.covers c.toNat) = none :=
    List.find?_eq_none.2 fun run hrun => by simp [h run (List.mem_append_left _ hrun)]
  have hexpansions : expansions.lookup c.toNat = none := by
    refine List.lookup_eq_none_iff.2 fun expansion hexpansion => bne_iff_ne.2 fun heq => ?_
    have hcovers := h _ (List.mem_append_right runs (List.mem_map_of_mem hexpansion))
    rw [CaseRun.covers_single.2 heq] at hcovers
    contradiction
  rw [mapCase, hruns, hexpansions]

lemma mapCase_cons {run : CaseRun} (h : run.covers c.toNat = true) :
    mapCase (run :: runs) expansions c = [.ofNat (run.target c.toNat)] := by
  have hfind : (run :: runs).find? (·.covers c.toNat) = some run := List.find?_cons_of_pos h
  rw [mapCase, hfind]

/-- What a mapping puts in the place of a character is the character itself, or avoids what all
images avoid. -/
lemma avoided_of_mem_mapCase (h : ImagesAvoid runs expansions avoided)
    (hd : d ∈ mapCase runs expansions c) :
    (d = c ∧ mapCase runs expansions c = [c])
      ∨ ∀ run ∈ avoided, run.covers d.toNat = false := by
  unfold mapCase at hd ⊢
  split at hd
  · next run hfind =>
    obtain rfl := List.mem_singleton.1 hd
    have hrun : run ∈ runs := List.mem_of_find?_eq_some hfind
    have hcovers : run.covers c.toNat = true := by simpa using List.find?_some hfind
    have hchars := h.onChars run hrun
    refine Or.inr fun other hother => ?_
    rw [toNat_ofNat (CaseRun.isValidChar_target hchars hcovers)]
    exact covers_eq_false_of_disjoint h.disjoint
      (List.mem_append_left _ (List.mem_map_of_mem hrun)) hother
      (CaseRun.covers_target hchars hcovers)
  · split at hd
    · next codes hcodes =>
      obtain ⟨code, hcode, rfl⟩ := List.mem_map.1 hd
      obtain ⟨before, after, rfl, -⟩ := List.lookup_eq_some_iff.1 hcodes
      have hcode : code ∈ (before ++ (c.toNat, codes) :: after).flatMap Prod.snd :=
        List.mem_flatMap.2 ⟨(c.toNat, codes), by simp, hcode⟩
      refine Or.inr fun other hother => ?_
      rw [toNat_ofNat (h.isValidChar code hcode)]
      exact covers_eq_false_of_disjoint h.disjoint
        (List.mem_append_right _ (List.mem_map_of_mem hcode)) hother
        (CaseRun.covers_single.2 rfl)
    · obtain rfl := List.mem_singleton.1 hd
      exact Or.inl ⟨rfl, rfl⟩

/-- **A mapping whose images avoid what it moves leaves its images as they are.** -/
theorem mapCase_of_mem_mapCase (h : ImagesAvoid runs expansions avoided)
    (hmoved : movedRuns runs expansions ⊆ avoided) (hd : d ∈ mapCase runs expansions c) :
    mapCase runs expansions d = [d] := by
  rcases avoided_of_mem_mapCase h hd with ⟨rfl, hself⟩ | havoided
  · exact hself
  · exact mapCase_eq_self fun run hrun => havoided run (hmoved hrun)

lemma mapCase_ne_nil (h : ∀ expansion ∈ expansions, expansion.2 ≠ []) (c : Char) :
    mapCase runs expansions c ≠ [] := by
  unfold mapCase
  split
  · exact List.cons_ne_nil _ _
  · split
    · next codes hcodes =>
      obtain ⟨before, after, rfl, -⟩ := List.lookup_eq_some_iff.1 hcodes
      have hcodes' : codes ≠ [] := h (c.toNat, codes) (by simp)
      simpa using hcodes'
    · exact List.cons_ne_nil _ _

/-- A mapping has one character for another, or an expansion. -/
lemma mapCase_cases (runs : List CaseRun) (expansions : List CaseExpansion) (c : Char) :
    (∃ d, mapCase runs expansions c = [d])
      ∨ ∃ codes, (c.toNat, codes) ∈ expansions
        ∧ mapCase runs expansions c = codes.map Char.ofNat := by
  unfold mapCase
  split
  · exact Or.inl ⟨_, rfl⟩
  · split
    · next codes hcodes =>
      obtain ⟨before, after, rfl, -⟩ := List.lookup_eq_some_iff.1 hcodes
      exact Or.inr ⟨codes, by simp, rfl⟩
    · exact Or.inl ⟨c, rfl⟩

end ApiSurvey.Text
