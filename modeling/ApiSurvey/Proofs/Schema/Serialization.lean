import ApiSurvey.Schema.FieldTable
import Mathlib.Tactic.Common

/-!
# Tables written as records and read back

A table is written as an object with a member for each of its parts, and read from a record.  Every
part comes back as it was, in its order, since a list comes back if each of its elements does.  Two
parts are not written as they stand: a truncation shares one object with its reason, whose members
depend on the kind of reason, and the list of truncations is left out when it is empty, which is
what is read where it is missing.
-/

namespace ApiSurvey.Schema.FieldTable

/-! ## The parts of a table -/

lemma readEnums?_restored (enums : List (String × List Json)) :
    readEnums? (.object (enums.map fun entry => (entry.1, .array entry.2))) = some enums := by
  exact Json.mapM_map_restored (fun entry => (entry.1, Json.array entry.2))
    (fun entry => do return (entry.1, ← entry.2.items?)) (fun _ => rfl) enums

/-- The members of a reason stand beside the path, under names of their own. -/
lemma readTruncation?_restored (t : Truncation) : readTruncation? (truncationJson t) = some t := by
  obtain ⟨path, reason⟩ := t
  cases reason with
  | cycle reference => rfl
  | depth limit =>
    -- a limit is written as a number, and not every number is read as a size
    simp [truncationJson, readTruncation?, Json.lookup_cons, Json.string?, ReasonTag.ofJson?,
      Json.size?_ofNat]

lemma readTruncated?_restored (ts : List Truncation) :
    readTruncated? (.array (ts.map truncationJson)) = some ts :=
  Json.mapM_map_restored truncationJson readTruncation? readTruncation?_restored ts

/-- The members that a table is written with, in their order; the list of truncations is missing
when it is empty. -/
lemma record?_toJson (t : FieldTable) :
    t.toJson.record? memberNames = some
      [some (.object t.examples),
        some (.object (t.enums.map fun entry => (entry.1, .array entry.2))),
        some (.array (t.required.map .string)),
        some (.array (t.readOnly.map .string)),
        if t.truncated.isEmpty then none else some (.array (t.truncated.map truncationJson))] := by
  cases h : t.truncated.isEmpty <;> simp [toJson, h, Json.record?, memberNames, Json.lookup_cons]

lemma truncated_restored (ts : List Truncation) :
    Json.optional readTruncated? []
      (if ts.isEmpty then none else some (.array (ts.map truncationJson))) = some ts := by
  cases ts with
  | nil => rfl
  | cons t ts => exact readTruncated?_restored (t :: ts)

/-- **A table is read back from what is written of it**, with every part in its order. -/
theorem ofJson?_toJson (t : FieldTable) : ofJson? t.toJson = some t := by
  rw [ofJson?, record?_toJson]
  simp only [Json.required, Option.bind_some, Json.members?, readEnums?_restored,
    Json.strings?_restored, truncated_restored, Option.bind_eq_bind, Option.pure_def]

end ApiSurvey.Schema.FieldTable
