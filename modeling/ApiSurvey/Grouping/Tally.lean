/-!
# Tallies

How often each key was counted, in order of first appearance.
-/

namespace ApiSurvey.Grouping

abbrev Tally := List (String × Nat)

namespace Tally

/-- The tally with `key` counted once more. -/
def add (t : Tally) (key : String) : Tally :=
  match t with
  | [] => [(key, 1)]
  | (k, n) :: rest => if k = key then (k, n + 1) :: rest else (k, n) :: add rest key

/-- The tally of a list of keys. -/
def ofKeys (keys : List String) : Tally :=
  keys.foldl add []

/-- How often `key` was counted. -/
def count (t : Tally) (key : String) : Nat :=
  (t.lookup key).getD 0

theorem count_nil (key : String) : count [] key = 0 := rfl

theorem count_cons (k : String) (n : Nat) (t : Tally) (key : String) :
    count ((k, n) :: t) key = if key = k then n else count t key := by
  by_cases h : key = k
  · simp [count, h]
  · have hb : (key == k) = false := by simpa using h
    simp [count, List.lookup_cons, h, hb]

theorem count_add (t : Tally) (key k : String) :
    (t.add key).count k = t.count k + if k = key then 1 else 0 := by
  induction t with
  | nil => rw [add, count_cons]; simp [count_nil]
  | cons entry t ih =>
    obtain ⟨l, n⟩ := entry
    by_cases hl : l = key
    · subst hl
      simp only [add, if_true, count_cons]
      split <;> simp
    · simp only [add, if_neg hl, count_cons, ih]
      split
      · next h => subst h; simp [hl]
      · rfl

/-- Every key is counted as often as it is given. -/
theorem count_ofKeys (keys : List String) (key : String) :
    (ofKeys keys).count key = keys.count key := by
  suffices h : ∀ t : Tally, (keys.foldl add t).count key = t.count key + keys.count key by
    simpa [ofKeys, count_nil] using h []
  induction keys with
  | nil => simp
  | cons k keys ih =>
    intro t
    rw [List.foldl_cons, ih, count_add, List.count_cons]
    by_cases h : key = k
    · simp [h]; omega
    · simp [h, Ne.symm h]

end Tally

end ApiSurvey.Grouping
