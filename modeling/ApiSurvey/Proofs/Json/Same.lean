import ApiSurvey.Json.Basic
import Mathlib.Tactic.Common

/-!
# Equality of values as data

Equality as data is transitive.  This is what allows duplicates to be removed in stages: a value
that equals a dropped one also equals the one for which that was dropped.
-/

namespace ApiSurvey

lemma Number.same_trans {a b c : Number} (hab : a.same b = true) (hbc : b.same c = true) :
    a.same c = true := by
  cases a <;> cases b <;> simp only [Number.same, Bool.false_eq_true] at hab <;>
    cases c <;> simp only [Number.same, Bool.false_eq_true] at hbc
  · simp only [beq_iff_eq] at hab hbc
    simp [Number.same, hab, hbc]
  · rw [Binary64.sameValue_iff] at hab hbc
    rw [Number.same, Binary64.sameValue_iff, hab, hbc]

namespace Json

/-- A member of the left object has an equal one on the right. -/
lemma exists_same_of_lookup {ms ns : Members} (h : sameMembers ms ns = true) {key : String}
    {v : Json} (hv : ms.lookup key = some v) :
    ∃ w, ns.lookup key = some w ∧ same v w = true := by
  induction ms with
  | nil => simp at hv
  | cons entry ms ih =>
    obtain ⟨k, u⟩ := entry
    simp only [sameMembers, Bool.and_eq_true] at h
    rw [lookup_cons] at hv
    split at hv
    · next hk =>
      obtain rfl := Option.some.inj hv
      subst hk
      cases hw : ns.lookup key with
      | none => simp [hw] at h
      | some w => exact ⟨w, rfl, by simpa [hw] using h.1⟩
    · exact ih h.2 hv

mutual

theorem same_trans (u v w : Json) (huv : same u v = true) (hvw : same v w = true) :
    same u w = true := by
  match u with
  | .null =>
    cases v with
    | null => exact hvw
    | _ => simp [same] at huv
  | .bool a =>
    cases v with
    | bool b =>
      obtain rfl : a = b := by simpa [same] using huv
      exact hvw
    | _ => simp [same] at huv
  | .number a =>
    cases v with
    | number b =>
      cases w with
      | number c => exact Number.same_trans huv hvw
      | _ => simp [same] at hvw
    | _ => simp [same] at huv
  | .string a =>
    cases v with
    | string b =>
      obtain rfl : a = b := by simpa [same] using huv
      exact hvw
    | _ => simp [same] at huv
  | .array us =>
    cases v with
    | array vs =>
      cases w with
      | array ws => exact sameItems_trans us vs ws huv hvw
      | _ => simp [same] at hvw
    | _ => simp [same] at huv
  | .object ms =>
    cases v with
    | object ns =>
      cases w with
      | object ps =>
        simp only [same, Bool.and_eq_true, beq_iff_eq] at huv hvw ⊢
        exact ⟨huv.1.trans hvw.1, sameMembers_trans ms ns ps huv.2 hvw.2⟩
      | _ => simp [same] at hvw
    | _ => simp [same] at huv

theorem sameItems_trans (us vs ws : List Json) (huv : sameItems us vs = true)
    (hvw : sameItems vs ws = true) : sameItems us ws = true := by
  match us with
  | [] => cases vs <;> simp_all [sameItems]
  | u :: us =>
    cases vs with
    | nil => simp [sameItems] at huv
    | cons v vs =>
      cases ws with
      | nil => simp [sameItems] at hvw
      | cons w ws =>
        simp only [sameItems, Bool.and_eq_true] at huv hvw ⊢
        exact ⟨same_trans u v w huv.1 hvw.1, sameItems_trans us vs ws huv.2 hvw.2⟩

theorem sameMembers_trans (ms ns ps : Members) (hmn : sameMembers ms ns = true)
    (hnp : sameMembers ns ps = true) : sameMembers ms ps = true := by
  match ms with
  | [] => simp [sameMembers]
  | (key, u) :: ms =>
    simp only [sameMembers, Bool.and_eq_true] at hmn ⊢
    refine ⟨?_, sameMembers_trans ms ns ps hmn.2 hnp⟩
    cases hv : ns.lookup key with
    | none => simp [hv] at hmn
    | some v =>
      obtain ⟨w, hw, hvw⟩ := exists_same_of_lookup hnp hv
      have huv : same u v = true := by simpa [hv] using hmn.1
      simpa [hw] using same_trans u v w huv hvw

end

end Json

end ApiSurvey
