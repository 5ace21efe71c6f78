import ApiSurvey.FieldPath.Extract
import Mathlib.Tactic.Common

/-!
# Paths written one after the other

Two paths with a point between them are one path, which has the keys of both.  Following it is
following the first path and then, from where it leads, the second.  For resolving this is the
composition of two partial functions.  Extracting takes all entries through a segment before it goes
on to the next one; but a segment treats every entry on its own, so each value that the first path
leads to may as well be followed alone, and the results put one after the other.
-/

namespace ApiSurvey

namespace FieldPath

/-- The values among some entries, the absent entries left out. -/
def present (entries : List (Option Json)) : List Json :=
  entries.filterMap id

lemma present_flatMap (values : List Json) (entries : Json → List (Option Json)) :
    present (values.flatMap entries) = values.flatMap fun v => present (entries v) :=
  List.filterMap_flatMap

/-! ## Each entry on its own -/

/-- One segment, and then the others: only the values among the entries are followed. -/
lemma follow_cons (entries : List (Option Json)) (s : Segment) (segments : List Segment) :
    follow entries (s :: segments) = follow ((present entries).flatMap s.step) segments := rfl

lemma follow_value_cons (v : Json) (s : Segment) (segments : List Segment) :
    follow [some v] (s :: segments) = follow (s.step v) segments := by
  rw [follow_cons]
  simp [present]

/-- Entries that come of several values may be followed value by value. -/
lemma follow_flatMap (values : List Json) (entries : Json → List (Option Json))
    (segments : List Segment) :
    follow (values.flatMap entries) segments
      = values.flatMap fun v => follow (entries v) segments := by
  induction segments generalizing entries with
  | nil => rfl
  | cons s segments ih =>
    calc follow (values.flatMap entries) (s :: segments)
        = follow ((present (values.flatMap entries)).flatMap s.step) segments :=
          follow_cons _ s segments
      _ = follow (values.flatMap fun v => (present (entries v)).flatMap s.step) segments := by
          rw [present_flatMap, List.flatMap_assoc]
      _ = values.flatMap fun v => follow (entries v) (s :: segments) :=
          ih fun v => (present (entries v)).flatMap s.step

/-- **The entries that some segments lead to are those that they lead to from each value.** -/
lemma follow_eq_flatMap {segments : List Segment} (h : segments ≠ [])
    (entries : List (Option Json)) :
    follow entries segments = (present entries).flatMap fun v => follow [some v] segments := by
  obtain ⟨s, segments, rfl⟩ := List.exists_cons_of_ne_nil h
  simp only [follow_value_cons]
  rw [follow_cons, follow_flatMap]

/-! ## Joining two paths -/

lemma tokens_append (a b : String) : tokens (a ++ "." ++ b) = tokens a ++ tokens b := by
  have hchars : (a ++ "." ++ b).toList = a.toList ++ '.' :: b.toList := by simp
  simp only [tokens, hchars, Text.splitOn_append_cons, List.map_append, List.filter_append]

lemma segments_parse_append (a b : String) :
    (parse (a ++ "." ++ b)).segments = (parse a).segments ++ (parse b).segments := by
  simp only [parse, tokens_append, List.map_append]

lemma segments_parse_ne_nil {path : String} (h : tokens path ≠ []) :
    (parse path).segments ≠ [] := by
  simpa [parse] using h

lemma extract_parse_append (root : Json) (a : String) {b : String} (h : tokens b ≠ []) :
    extract root (parse (a ++ "." ++ b))
      = (present (extract root (parse a))).flatMap fun v => extract v (parse b) := by
  have hsegments : (parse b).segments ≠ [] := segments_parse_ne_nil h
  rw [extract, segments_parse_append, follow_append, follow_eq_flatMap hsegments]
  rfl

end FieldPath

lemma Json.resolve?_append (root : Json) (a b : String) :
    root.resolve? (a ++ "." ++ b) = (root.resolve? a).bind fun v => v.resolve? b := by
  rw [Json.resolve?, FieldPath.tokens_append, List.foldlM_append]
  rfl

namespace FieldPath

/-- **Two paths with a point between them are followed one after the other**: the segments of the
joined path are those of the two; it resolves to what the second resolves to where the first does,
if it does; and if the second path has a key, extracting the joined path gives, value by value,
what the second extracts from the values that the first does. -/
theorem joined_followed (root : Json) (a b : String) :
    (parse (a ++ "." ++ b)).segments = (parse a).segments ++ (parse b).segments
      ∧ root.resolve? (a ++ "." ++ b) = (root.resolve? a).bind (fun v => v.resolve? b)
      ∧ (tokens b ≠ [] → extract root (parse (a ++ "." ++ b))
          = (present (extract root (parse a))).flatMap fun v => extract v (parse b)) :=
  ⟨segments_parse_append a b, root.resolve?_append a b, extract_parse_append root a⟩

/-! The lines of an order: one without tags, one that is null, and one whose tags are no list. -/

def orderLines : Json := .object [("lines", .array
  [.object [("tags", .array [.string "new", .string "used"])], .object [], .null,
    .object [("tags", .string "sale")], .object [("tags", .array [.null, .string "new"])]])]

theorem joined_followed_orderLines :
    tokens " tags[] " ≠ []
      ∧ extract orderLines (parse ("lines[]" ++ "." ++ " tags[] "))
        = ((present (extract orderLines (parse "lines[]"))).flatMap
            fun v => extract v (parse " tags[] "))
      ∧ extract orderLines (parse "lines[]. tags[] ")
        = [some (.string "new"), some (.string "used"), some .null, some (.string "new")] := by
  have htokens : tokens " tags[] " ≠ [] := by decide +kernel
  exact ⟨htokens, (joined_followed orderLines "lines[]" " tags[] ").2.2 htokens, by decide +kernel⟩

-- A second path without a key leaves the entries of the first as they are, the absent ones too.
example :
    extract orderLines (parse ("lines[].tags" ++ "." ++ " "))
        = extract orderLines (parse "lines[].tags")
      ∧ none ∈ extract orderLines (parse "lines[].tags") := by
  decide +kernel

end FieldPath

end ApiSurvey
