import ApiSurvey.Json.Basic
import Mathlib.Tactic.Common

/-!
# The values inside a value

All values that occur in a value, at any depth, in document order.  Going into a value leaves
fewer of them, which bounds any descent; and what is inside a value inside is inside already, so
that a descent never leaves this finite list.
-/

namespace ApiSurvey.Json

mutual

/-- The values inside a value, at any depth. -/
def inside : Json → List Json
  | .array items => insideItems items
  | .object members => insideMembers members
  | _ => []

def insideItems : List Json → List Json
  | [] => []
  | v :: vs => v :: inside v ++ insideItems vs

def insideMembers : Members → List Json
  | [] => []
  | (_, v) :: members => v :: inside v ++ insideMembers members

end

/-! ## One step inside -/

lemma mem_insideItems {v : Json} {vs : List Json} (h : v ∈ vs) : v ∈ insideItems vs := by
  induction vs with
  | nil => simp at h
  | cons w vs ih =>
    rcases List.mem_cons.1 h with rfl | h
    · simp [insideItems]
    · exact List.mem_append_right _ (ih h)

lemma mem_insideMembers {key : String} {v : Json} {members : Members} (h : (key, v) ∈ members) :
    v ∈ insideMembers members := by
  induction members with
  | nil => simp at h
  | cons entry members ih =>
    obtain ⟨k, w⟩ := entry
    rcases List.mem_cons.1 h with heq | h
    · obtain ⟨rfl, rfl⟩ := Prod.mk.inj heq
      simp [insideMembers]
    · exact List.mem_append_right _ (ih h)

lemma mem_inside_array {v : Json} {items : List Json} (h : v ∈ items) :
    v ∈ (array items).inside :=
  mem_insideItems h

lemma mem_inside_object {key : String} {v : Json} {members : Members} (h : (key, v) ∈ members) :
    v ∈ (object members).inside :=
  mem_insideMembers h

lemma mem_inside_of_get? {v w : Json} {key : String} (h : v.get? key = some w) :
    w ∈ v.inside := by
  cases v with
  | object members =>
    obtain ⟨before, after, rfl, -⟩ := List.lookup_eq_some_iff.1 h
    have hentry : (key, w) ∈ before ++ (key, w) :: after := by simp
    exact mem_inside_object hentry
  | _ => simp [get?] at h

/-! ## Any number of steps -/

mutual

theorem cons_inside_sublist (v w : Json) (h : w ∈ v.inside) :
    (w :: w.inside).Sublist v.inside := by
  match v with
  | .array items => exact cons_inside_sublist_items items w h
  | .object members => exact cons_inside_sublist_members members w h
  | .null | .bool _ | .number _ | .string _ => simp [inside] at h

theorem cons_inside_sublist_items (vs : List Json) (w : Json) (h : w ∈ insideItems vs) :
    (w :: w.inside).Sublist (insideItems vs) := by
  match vs with
  | [] => simp [insideItems] at h
  | v :: vs =>
    rw [insideItems, List.cons_append, List.mem_cons, List.mem_append] at h
    rcases h with rfl | h | h
    · exact List.sublist_append_left (_ :: inside _) _
    · exact ((cons_inside_sublist v w h).cons v).trans (List.sublist_append_left _ _)
    · exact (cons_inside_sublist_items vs w h).trans (List.sublist_append_right _ _)

theorem cons_inside_sublist_members (members : Members) (w : Json)
    (h : w ∈ insideMembers members) : (w :: w.inside).Sublist (insideMembers members) := by
  match members with
  | [] => simp [insideMembers] at h
  | (_, v) :: members =>
    rw [insideMembers, List.cons_append, List.mem_cons, List.mem_append] at h
    rcases h with rfl | h | h
    · exact List.sublist_append_left (_ :: inside _) _
    · exact ((cons_inside_sublist v w h).cons v).trans (List.sublist_append_left _ _)
    · exact (cons_inside_sublist_members members w h).trans (List.sublist_append_right _ _)

end

lemma length_inside_lt {v w : Json} (h : w ∈ v.inside) : w.inside.length < v.inside.length :=
  (cons_inside_sublist v w h).length_le

lemma mem_inside_trans {u v w : Json} (huw : u ∈ w.inside) (hwv : w ∈ v.inside) :
    u ∈ v.inside :=
  (cons_inside_sublist v w hwv).subset (List.mem_cons_of_mem w huw)

end ApiSurvey.Json
