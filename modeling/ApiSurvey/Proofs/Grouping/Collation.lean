import ApiSurvey.Grouping.Key
import Mathlib.Tactic.Common

/-!
# The order of collation

Collation is a total order of keys, whatever the folding is.  Keys that it does not tell apart are
equal, since the texts themselves decide where the folded forms agree.

Sorting by such an order leaves a list in this order, and strictly so if no two of its elements
compare equal; then it does not matter either in which order they were before.
-/

namespace ApiSurvey

open Std (LawfulEqCmp OrientedCmp TransCmp)

variable {fold : List Char → List Char}

lemma collateBy_eq_compareLex :
    collateBy fold
      = compareLex (compareOn fun s => fold s.toList) fun a b => compareOn String.toList b a :=
  rfl

instance : TransCmp (collateBy fold) := by
  rw [collateBy_eq_compareLex]
  infer_instance

instance : LawfulEqCmp (collateBy fold) where
  compare_self := Std.ReflCmp.compare_self
  eq_of_compare {a b} h := by
    have htexts : compare b.toList a.toList = .eq := (Ordering.then_eq_eq.1 h).2
    exact String.toList_injective (LawfulEqCmp.eq_of_compare htexts).symm

instance : TransCmp collate :=
  inferInstanceAs (TransCmp (collateBy Text.fold))

instance : LawfulEqCmp collate :=
  inferInstanceAs (LawfulEqCmp (collateBy Text.fold))

/-! ## Sorting by a comparison -/

section

variable {α : Type} {cmp : α → α → Ordering} [TransCmp cmp]

lemma pairwise_isLE_mergeSort (l : List α) :
    (l.mergeSort fun a b => (cmp a b).isLE).Pairwise fun a b => (cmp a b).isLE := by
  refine List.pairwise_mergeSort (fun a b c => TransCmp.isLE_trans) (fun a b => ?_) l
  have hswap : cmp b a = (cmp a b).swap := OrientedCmp.eq_swap
  rw [hswap]
  cases cmp a b <;> rfl

/-- Elements that never compare equal are sorted strictly. -/
lemma pairwise_lt_mergeSort {l : List α} (h : l.Pairwise fun a b => cmp a b ≠ .eq) :
    (l.mergeSort fun a b => (cmp a b).isLE).Pairwise fun a b => cmp a b = .lt := by
  have hne : (l.mergeSort fun a b => (cmp a b).isLE).Pairwise fun a b => cmp a b ≠ .eq := by
    refine ((List.mergeSort_perm l _).pairwise_iff fun {a b} hab hba => ?_).2 h
    exact hab (OrientedCmp.eq_symm hba)
  refine ((pairwise_isLE_mergeSort l).and hne).imp fun {a b} ⟨hle, hne⟩ => ?_
  exact (Ordering.isLE_iff_eq_lt_or_eq_eq.1 hle).resolve_right hne

/-- There is one arrangement of a list in order, if no two different elements compare equal. -/
lemma eq_mergeSort_of_pairwise {l sorted : List α} (hperm : sorted.Perm l)
    (hsorted : sorted.Pairwise fun a b => (cmp a b).isLE)
    (heq : ∀ a ∈ l, ∀ b ∈ l, cmp a b = .eq → a = b) :
    sorted = l.mergeSort fun a b => (cmp a b).isLE := by
  have hl := List.mergeSort_perm l fun a b => (cmp a b).isLE
  refine List.Perm.eq_of_pairwise (fun a b ha hb hab hba => ?_) hsorted
    (pairwise_isLE_mergeSort l) (hperm.trans hl.symm)
  exact heq a (hperm.mem_iff.1 ha) b (hl.mem_iff.1 hb) (OrientedCmp.isLE_antisymm hab hba)

/-- The order before sorting is not seen if no two different elements compare equal. -/
lemma mergeSort_eq_of_perm {l l' : List α} (h : l.Perm l')
    (heq : ∀ a ∈ l, ∀ b ∈ l, cmp a b = .eq → a = b) :
    (l.mergeSort fun a b => (cmp a b).isLE) = l'.mergeSort fun a b => (cmp a b).isLE := by
  have hl := List.mergeSort_perm l fun a b => (cmp a b).isLE
  refine eq_mergeSort_of_pairwise (hl.trans h) (pairwise_isLE_mergeSort l) fun a ha b hb => ?_
  exact heq a (h.mem_iff.2 ha) b (h.mem_iff.2 hb)

end

/-! ## Sorting keys -/

/-- The keys in the order by `fold`. -/
def sortKeysBy (fold : List Char → List Char) (keys : List String) : List String :=
  keys.mergeSort fun a b => (collateBy fold a b).isLE

lemma sortKeys_eq_sortKeysBy (keys : List String) : sortKeys keys = sortKeysBy Text.fold keys :=
  rfl

/-- **Collation is a strict total order of keys, whatever the folding is**, so that some keys have
one arrangement in order, and sorting finds it in whatever order they are given. -/
theorem collateBy_strictTotalOrder (fold : List Char → List Char) :
    (∀ a b, collateBy fold a b = .eq ↔ a = b)
      ∧ (∀ a b, collateBy fold b a = (collateBy fold a b).swap)
      ∧ (∀ a b c, collateBy fold a b = .lt → collateBy fold b c = .lt → collateBy fold a c = .lt)
      ∧ (∀ keys sorted : List String, sorted.Perm keys →
          (sorted.Pairwise fun a b => (collateBy fold a b).isLE) → sorted = sortKeysBy fold keys)
      ∧ ∀ keys keys' : List String, keys.Perm keys' →
          sortKeysBy fold keys = sortKeysBy fold keys' := by
  have hequal (a b : String) : collateBy fold a b = .eq → a = b := LawfulEqCmp.eq_of_compare
  refine ⟨fun a b => ⟨hequal a b, ?_⟩, fun a b => OrientedCmp.eq_swap,
    fun a b c => TransCmp.lt_trans, fun keys sorted hperm hsorted => ?_, fun keys keys' hperm => ?_⟩
  · rintro rfl
    exact Std.ReflCmp.compare_self
  · exact eq_mergeSort_of_pairwise hperm hsorted fun a _ b _ => hequal a b
  · exact mergeSort_eq_of_perm hperm fun a _ b _ => hequal a b

/-! Fruits in two orders, one of them written in two ways. -/

def fruits : List String := ["cherry", "Banana", "apple", "Apple"]

theorem collateBy_strictTotalOrder_fruits :
    collate "apple" "Apple" = .lt ∧ collate "Apple" "Banana" = .lt
      ∧ collate "apple" "Banana" = .lt
      ∧ fruits.reverse.Perm fruits
      ∧ sortKeys fruits = ["apple", "Apple", "Banana", "cherry"]
      ∧ sortKeys fruits.reverse = sortKeys fruits := by
  obtain ⟨-, -, htrans, harranged, hperm⟩ := collateBy_strictTotalOrder Text.fold
  have hcase : collate "apple" "Apple" = .lt := by decide +kernel
  have hletter : collate "Apple" "Banana" = .lt := by decide +kernel
  have hreverse : fruits.reverse.Perm fruits := List.reverse_perm fruits
  have hsorted : ["apple", "Apple", "Banana", "cherry"] = sortKeysBy Text.fold fruits :=
    harranged fruits _ (by decide) (by decide +kernel)
  refine ⟨hcase, hletter, htrans _ _ _ hcase hletter, hreverse, ?_, ?_⟩
  · rw [sortKeys_eq_sortKeysBy, hsorted]
  · rw [sortKeys_eq_sortKeysBy, sortKeys_eq_sortKeysBy, hperm _ _ hreverse]

end ApiSurvey
