import ApiSurvey.Proofs.FieldPath.Concatenation

/-!
# Paths without expansion

A path is followed in two ways: keys are resolved one after the other, with one value at hand, and
segments are extracted with a list of entries at hand, null and absent ones passed over.  Where no
segment expands an array the list never has more than one entry.  Then the two agree: a null on the
way has no members, so that passing it over and failing to find a key in it come to the same, and
a null at the end is a value in both.
-/

namespace ApiSurvey

open FieldPath

namespace Segment

/-- The step along a key, nothing expanded. -/
def literal (key : String) : Segment :=
  ⟨key, false⟩

/-- A token that is not to be expanded is a key as it stands. -/
lemma ofToken_eq_literal {token : String} (h : (ofToken token).expand = false) :
    ofToken token = literal token := by
  unfold ofToken at h ⊢
  split at h
  · cases h
  · rfl

/-- Along a key there is one value where the key leads to one, and none where it does not. -/
lemma present_step_literal {key : String} (hkey : key ≠ "") (v : Json) :
    present ((literal key).step v) = (v.child? key).toList := by
  by_cases hnull : v.isNull = true
  · -- a null is passed over, and no key leads on from it
    obtain rfl : v = .null := by cases v <;> first | rfl | cases hnull
    rfl
  · have htarget : (literal key).target? v = v.child? key := by
      simp [target?, literal, hkey]
    rw [step, if_neg hnull, if_neg (by simp [literal]), htarget]
    cases v.child? key <;> rfl

end Segment

namespace FieldPath

lemma ne_empty_of_mem_tokens {path token : String} (h : token ∈ tokens path) : token ≠ "" := by
  obtain ⟨cs, hcs, rfl⟩ := List.mem_map.1 h
  have hne : cs ≠ [] := by simpa using (List.mem_filter.1 hcs).2
  simpa using hne

/-- Without expansion the segments of a path are its keys. -/
lemma segments_parse_of_literal {path : String} (h : (parse path).hasExpansion = false) :
    (parse path).segments = (tokens path).map Segment.literal := by
  have hliteral : ∀ token ∈ tokens path, (Segment.ofToken token).expand = false := by
    simpa [hasExpansion, parse] using h
  exact List.map_congr_left fun token htoken => Segment.ofToken_eq_literal (hliteral token htoken)

/-- The values that some segments lead to are those that they lead to from each value. -/
lemma present_follow (entries : List (Option Json)) (segments : List Segment) :
    present (follow entries segments)
      = (present entries).flatMap fun v => present (follow [some v] segments) := by
  cases segments with
  | nil => exact (List.flatMap_singleton' _).symm
  | cons s segments => rw [follow_eq_flatMap (List.cons_ne_nil s segments), present_flatMap]

/-- **Keys that are followed without expansion lead to the value that they resolve to.** -/
lemma present_follow_literal {keys : List String} (hkeys : ∀ key ∈ keys, key ≠ "") (v : Json) :
    present (follow [some v] (keys.map Segment.literal)) = (keys.foldlM Json.child? v).toList := by
  induction keys generalizing v with
  | nil => rfl
  | cons key keys ih =>
    have hstep : present ((Segment.literal key).step v) = (v.child? key).toList :=
      Segment.present_step_literal (hkeys key List.mem_cons_self) v
    have hrest : ∀ w, present (follow [some w] (keys.map Segment.literal))
        = (keys.foldlM Json.child? w).toList :=
      ih fun l hl => hkeys l (List.mem_cons_of_mem key hl)
    rw [List.map_cons, follow_value_cons, present_follow, hstep, List.foldlM_cons]
    cases v.child? key with
    | none => rfl
    | some w => simp [hrest]

/-- **A path without expansion extracts what it resolves to**: the value itself, which may be null,
if there is one, and else no value. -/
theorem present_extract_of_literal {path : String} (h : (parse path).hasExpansion = false)
    (root : Json) : present (extract root (parse path)) = (root.resolve? path).toList := by
  rw [extract, segments_parse_of_literal h]
  exact present_follow_literal (fun _ => ne_empty_of_mem_tokens) root

/-! An order whose second line has no price. -/

def pricedLines : Json := .object [("lines", .array
  [.object [("price", .object [("amount", .ofNat 7)])], .object [("price", .null)]])]

theorem present_extract_pricedLines :
    (parse "lines. 1 .price").hasExpansion = false
      ∧ present (extract pricedLines (parse "lines. 1 .price"))
        = (pricedLines.resolve? "lines. 1 .price").toList
      ∧ pricedLines.resolve? "lines. 1 .price" = some .null := by
  have hliteral : (parse "lines. 1 .price").hasExpansion = false := by decide +kernel
  exact ⟨hliteral, present_extract_of_literal hliteral pricedLines, by decide +kernel⟩

-- Past the null nothing is extracted, as nothing is resolved; beside it the last entry is absent.
example :
    extract pricedLines (parse "lines.1.price.amount") = []
      ∧ extract pricedLines (parse "lines.0.price.currency") = [none] := by
  decide +kernel

end FieldPath

end ApiSurvey
