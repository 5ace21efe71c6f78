import ApiSurvey.Grouping.Breakdown
import ApiSurvey.Proofs.FieldPath.Literal
import Mathlib.Data.List.Basic
import Mathlib.Data.List.Flatten

/-!
# The elements of an array at the end of a path

There are two ways from an array to the atoms of its elements: the path goes on to the elements and
each of them contributes its atoms, or the path ends at the array and the array contributes the
atoms of its elements.  The atoms are the same, in the same order.  The two ways differ for a value
that is no array: it contributes where the path ends at it, and it has no elements where the path
goes on.
-/

namespace ApiSurvey

section

variable {α β : Type} {l : List α} {f g : α → List β}

/-- If every part is within another one, the whole is the other whole only part by part. -/
lemma flatMap_eq_flatMap_iff (h : ∀ a ∈ l, (f a).Sublist (g a)) :
    l.flatMap f = l.flatMap g ↔ ∀ a ∈ l, f a = g a := by
  refine ⟨fun heq => ?_, List.flatMap_congr⟩
  induction l with
  | nil => simp
  | cons a l ih =>
    obtain ⟨ha, hl⟩ := List.forall_mem_cons.1 h
    rw [List.flatMap_cons, List.flatMap_cons] at heq
    have hlength := congrArg List.length heq
    rw [List.length_append, List.length_append] at hlength
    -- neither part is longer on the left, so none is shorter
    have hrest : (l.flatMap f).length ≤ (l.flatMap g).length :=
      (List.Sublist.flatMap_right l hl).length_le
    have hfirst : (f a).length = (g a).length := by
      have hle := ha.length_le
      omega
    obtain ⟨heq_first, heq_rest⟩ := List.append_inj heq hfirst
    exact List.forall_mem_cons.2 ⟨heq_first, ih hl heq_rest⟩

end

open FieldPath

/-- The step to the elements of what is found under a key. -/
def Segment.each (key : String) : Segment :=
  ⟨key, true⟩

/-- The path with one more segment. -/
def FieldPath.extend (p : FieldPath) (s : Segment) : FieldPath :=
  ⟨p.segments ++ [s]⟩

/-! ## The atoms of elements -/

namespace Json

/-- The atoms of the elements of an array; none for any other value. -/
def elementAtoms : Json → List String
  | array items => atomsOfItems items
  | _ => []

lemma elementAtoms_sublist (v : Json) : v.elementAtoms.Sublist v.atoms := by
  cases v with
  | array items => exact List.Sublist.refl _
  | _ => exact List.nil_sublist _

/-- Only null and arrays contribute nothing but the atoms of elements. -/
lemma elementAtoms_eq_atoms_iff {v : Json} :
    v.elementAtoms = v.atoms ↔ (v ≠ null → v.isArray = true) := by
  cases v <;> simp [elementAtoms, atoms, isArray, items?]

end Json

namespace FieldPath

lemma flatMap_entryAtoms (entries : List (Option Json)) :
    entries.flatMap entryAtoms = (present entries).flatMap Json.atoms := by
  induction entries with
  | nil => rfl
  | cons entry entries ih =>
    rw [List.flatMap_cons, ih]
    cases entry <;> rfl

lemma atoms_eq_flatMap_present (p : FieldPath) (item : Json) :
    p.atoms item = (present (p.extract item)).flatMap Json.atoms :=
  flatMap_entryAtoms _

lemma extract_extend (p : FieldPath) (s : Segment) (item : Json) :
    (p.extend s).extract item = (present (p.extract item)).flatMap s.step := by
  rw [extract, extend, follow_append, follow_cons, follow_nil]
  rfl

/-- The elements under a key contribute the atoms of the elements that the value under it has. -/
lemma flatMap_atoms_step_each (key : String) (v : Json) :
    (present ((Segment.each key).step v)).flatMap Json.atoms
      = (present ((Segment.literal key).step v)).flatMap Json.elementAtoms := by
  by_cases hnull : v.isNull = true
  · -- a null is passed over either way
    rw [Segment.step, Segment.step, if_pos hnull, if_pos hnull]
    rfl
  · have hliteral : (Segment.literal key).step v = [(Segment.literal key).target? v] := by
      rw [Segment.step, if_neg hnull, if_neg (by simp [Segment.literal])]
    have htarget : (Segment.each key).target? v = (Segment.literal key).target? v := rfl
    rw [hliteral, Segment.step, if_neg hnull, if_pos (by simp [Segment.each]), htarget]
    cases (Segment.literal key).target? v with
    | none => rfl
    | some w =>
      cases w with
      | array items =>
        simp [present, Json.elementAtoms, Json.atomsOfItems_eq_flatMap, List.filterMap_map]
      | _ => rfl

/-- A path to elements contributes the atoms of the elements that the values have which the path
without expansion leads to. -/
lemma atoms_extend_each (p : FieldPath) (key : String) (item : Json) :
    (p.extend (.each key)).atoms item
      = (present ((p.extend (.literal key)).extract item)).flatMap Json.elementAtoms := by
  rw [atoms_eq_flatMap_present, extract_extend, extract_extend, present_flatMap, present_flatMap,
    List.flatMap_assoc, List.flatMap_assoc]
  exact List.flatMap_congr fun v _ => flatMap_atoms_step_each key v

lemma atoms_extend_each_eq_iff {p : FieldPath} {key : String} {item : Json} :
    (p.extend (.each key)).atoms item = (p.extend (.literal key)).atoms item
      ↔ ∀ v ∈ present ((p.extend (.literal key)).extract item), v ≠ .null → v.isArray = true := by
  rw [atoms_extend_each, atoms_eq_flatMap_present,
    flatMap_eq_flatMap_iff fun v _ => v.elementAtoms_sublist]
  exact forall₂_congr fun v _ => Json.elementAtoms_eq_atoms_iff

end FieldPath

namespace Grouping

/-- **With its last key expanded a path contributes some of the atoms that it contributes without,
in the same order, and all of them just if every value but null that the path leads to is an
array**; so if it leads to nothing else from any item, grouping by the one path is grouping by the
other. -/
theorem expanded_contributes (p : FieldPath) (key : String) :
    (∀ item, ((p.extend (.each key)).atoms item).Sublist ((p.extend (.literal key)).atoms item))
      ∧ (∀ item, (p.extend (.each key)).atoms item = (p.extend (.literal key)).atoms item
        ↔ ∀ v ∈ present ((p.extend (.literal key)).extract item), v ≠ .null → v.isArray = true)
      ∧ ∀ items normalizer,
        (∀ item ∈ items, ∀ v ∈ present ((p.extend (.literal key)).extract item),
          v ≠ .null → v.isArray = true) →
        Attempt.run items (p.extend (.each key)) normalizer
          = Attempt.run items (p.extend (.literal key)) normalizer := by
  refine ⟨fun item => ?_, fun item => atoms_extend_each_eq_iff, fun items normalizer harrays => ?_⟩
  · rw [atoms_extend_each, atoms_eq_flatMap_present]
    exact List.Sublist.flatMap_right _ fun v _ => v.elementAtoms_sublist
  · have hatoms : items.map (p.extend (.each key)).atoms
        = items.map (p.extend (.literal key)).atoms :=
      List.map_congr_left fun item hitem => atoms_extend_each_eq_iff.2 (harrays item hitem)
    rw [Attempt.run, Attempt.run, hatoms]

/-! Books with their genres: in one there is a list among them, another one has null for genres, and
the last one has none. -/

def books : List Json :=
  [.object [("genres", .array [.string "essay", .array [.string "travel", .null]])],
    .object [("genres", .null)], .object []]

theorem expanded_contributes_genres :
    (∀ item ∈ books,
        ∀ v ∈ present ((FieldPath.extend ⟨[]⟩ (.literal "genres")).extract item),
          v ≠ .null → v.isArray = true)
      ∧ Attempt.run books (.parse "genres[]") .lowerTrim
        = Attempt.run books (.parse "genres") .lowerTrim
      ∧ (Attempt.run books (.parse "genres") .lowerTrim).tally = [("essay", 1), ("travel", 1)] := by
  have harrays : ∀ item ∈ books,
      ∀ v ∈ present ((FieldPath.extend ⟨[]⟩ (.literal "genres")).extract item),
        v ≠ .null → v.isArray = true := by
    decide +kernel
  have hrun := (expanded_contributes ⟨[]⟩ "genres").2.2 books .lowerTrim harrays
  have hliteral : FieldPath.parse "genres" = FieldPath.extend ⟨[]⟩ (.literal "genres") := by
    decide +kernel
  have heach : FieldPath.parse "genres[]" = FieldPath.extend ⟨[]⟩ (.each "genres") := by
    decide +kernel
  rw [hliteral, heach]
  exact ⟨harrays, hrun, by decide +kernel⟩

-- A single genre that is not put in a list counts only without expansion.
example :
    (FieldPath.parse "genres").atoms (.object [("genres", .string "poem")]) = ["poem"]
      ∧ (FieldPath.parse "genres[]").atoms (.object [("genres", .string "poem")]) = [] := by
  decide +kernel

end Grouping

end ApiSurvey
