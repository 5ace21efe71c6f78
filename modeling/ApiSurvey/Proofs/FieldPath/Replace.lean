import ApiSurvey.FieldPath.Extract
import Mathlib.Tactic.Common

/-!
# Replacing the value at a path

The value that a path leads to is replaced, and everything beside the path stays as it is.  The
path then leads to the new value, since every container on the way keeps its keys or its length.

What is read as a number directly below the root is not touched when one list replaces another: a
member on the way to a list is no number, before and after.
-/

namespace ApiSurvey.Json

/-- The value with the one under a key replaced. -/
def setChild (v : Json) (key : String) (new : Json) : Json :=
  match v with
  | object members => object (insertMember members key new)
  | array items => array ((readDigits? 10 key.toList).elim items fun i => items.set i new)
  | v => v

/-- The value with the one replaced that some keys lead to; unchanged if they lead nowhere. -/
def replaceAt (v : Json) (keys : List String) (new : Json) : Json :=
  match keys with
  | [] => new
  | key :: keys =>
    (v.child? key).elim v fun child => v.setChild key (child.replaceAt keys new)

/-- The value with the one at a path replaced. -/
def replace (root : Json) (path : String) (new : Json) : Json :=
  root.replaceAt (FieldPath.tokens path) new

variable {v w new : Json} {key : String} {keys : List String} {items items' : List Json}

/-- A key that leads on from one list is an index, of every list. -/
lemma exists_index_of_child? (h : (array items).child? key = some w) :
    ∃ i, readDigits? 10 key.toList = some i ∧ ∀ xs, (array xs).child? key = xs[i]? := by
  simp only [child?] at h ⊢
  split at h
  · cases h
  · next hempty =>
    split at h
    · next hdigits =>
      obtain ⟨i, hi, -⟩ := Option.bind_eq_some_iff.1 h
      refine ⟨i, hi, fun xs => ?_⟩
      rw [if_neg hempty, if_pos hdigits, hi, Option.bind_some]
    · cases h

lemma child?_setChild (h : v.child? key = some w) : (v.setChild key new).child? key = some new := by
  cases v with
  | object members => simp [setChild, child?, lookup_insertMember]
  | array items =>
    obtain ⟨i, hi, hindex⟩ := exists_index_of_child? h
    rw [hindex] at h
    obtain ⟨hlt, -⟩ := List.getElem?_eq_some_iff.1 h
    rw [setChild, hi, hindex, Option.elim_some, List.getElem?_set_self hlt]
  | _ => cases h

/-- Where a key leads on, there is an object or a list. -/
lemma double?_eq_none_of_child? (h : v.child? key = some w) : v.double? = none := by
  cases v <;> first | rfl | cases h

lemma replaceAt_cons (h : v.child? key = some w) :
    v.replaceAt (key :: keys) new = v.setChild key (w.replaceAt keys new) := by
  rw [replaceAt, h, Option.elim_some]

lemma foldlM_child?_cons :
    (key :: keys).foldlM child? v = some w
      ↔ ∃ u, v.child? key = some u ∧ keys.foldlM child? u = some w := by
  rw [List.foldlM_cons]
  exact Option.bind_eq_some_iff

/-- The keys lead to the new value. -/
lemma foldlM_child?_replaceAt (h : keys.foldlM child? v = some w) :
    keys.foldlM child? (v.replaceAt keys new) = some new := by
  induction keys generalizing v with
  | nil => rfl
  | cons key keys ih =>
    obtain ⟨u, hu, h⟩ := foldlM_child?_cons.1 h
    rw [replaceAt_cons hu]
    exact foldlM_child?_cons.2 ⟨_, child?_setChild hu, ih h⟩

/-- **A path leads to what it was replaced by.** -/
lemma resolve?_replace {path : String} (h : v.resolve? path = some w) :
    (v.replace path new).resolve? path = some new :=
  foldlM_child?_replaceAt h

lemma resolve?_of_tokens {path : String} (h : FieldPath.tokens path = [key]) :
    v.resolve? path = v.child? key := by
  simp [resolve?, h]

/-! ## Numbers beside a list -/

/-- What lies on the way to a list is no number. -/
lemma double?_eq_none_of_foldlM (h : keys.foldlM child? v = some (array items)) :
    v.double? = none := by
  cases keys with
  | nil =>
    obtain rfl : v = array items := Option.some.inj h
    rfl
  | cons key keys =>
    obtain ⟨u, hu, -⟩ := foldlM_child?_cons.1 h
    exact double?_eq_none_of_child? hu

/-- A number under a key that is no index is the same after one list has replaced another. -/
lemma double?_child?_replaceAt (hkey : ∀ xs, (array xs).child? key = none)
    (h : keys.foldlM child? v = some (array items)) :
    ((v.replaceAt keys (array items')).child? key).bind double?
      = (v.child? key).bind double? := by
  cases keys with
  | nil =>
    obtain rfl : v = array items := Option.some.inj h
    rw [replaceAt, hkey, hkey]
  | cons l keys =>
    obtain ⟨u, hu, hfold⟩ := foldlM_child?_cons.1 h
    rw [replaceAt_cons hu]
    cases v with
    | object members =>
      by_cases hl : key = l
      · -- the member on the way is no number, whichever list is below it
        subst hl
        rw [child?_setChild hu, hu, Option.bind_some, Option.bind_some,
          double?_eq_none_of_foldlM hfold,
          double?_eq_none_of_foldlM (foldlM_child?_replaceAt hfold)]
      · simp only [setChild, child?, lookup_insertMember, if_neg hl]
    | array xs => rw [setChild, hkey, hkey]
    | _ => cases hu

end ApiSurvey.Json
