import ApiSurvey.Json.Basic

/-!
# Records in JSON

A record is an object, whose members are found by name and whose other members are ignored, or an
array, whose elements are the members in their fixed order and which may not have more of them.
-/

namespace ApiSurvey.Json

/-- The first `n` elements of a list of at most `n`, the missing ones absent. -/
def positions? : Nat → List Json → Option (List (Option Json))
  | n, [] => some (List.replicate n none)
  | 0, _ :: _ => none
  | n + 1, v :: vs => (positions? n vs).map (some v :: ·)

/-- The members of a record, in the order of `names`. -/
def record? (names : List String) : Json → Option (List (Option Json))
  | object members => some (names.map fun name => members.lookup name)
  | array items => positions? names.length items
  | _ => none

/-- A member that must be there. -/
def required {α : Type} (read : Json → Option α) (member : Option Json) : Option α :=
  member.bind read

/-- A member that may be left out, but not be of another kind. -/
def optional {α : Type} (read : Json → Option α) (default : α) (member : Option Json) : Option α :=
  member.elim (some default) read

/-- A string, or null for none. -/
def nullableString? : Json → Option (Option String)
  | null => some none
  | string s => some (some s)
  | _ => none

def strings? (v : Json) : Option (List String) := do
  let items ← v.items?
  items.mapM string?

/-- What is written of each element of a list and read back of each is the list. -/
theorem mapM_map_restored {α β : Type} (write : α → β) (read : β → Option α)
    (h : ∀ a, read (write a) = some a) (as : List α) : (as.map write).mapM read = some as := by
  have hpure : read ∘ write = pure := funext h
  rw [List.mapM_map, hpure, List.mapM_pure]
  simp

theorem strings?_restored (texts : List String) :
    strings? (array (texts.map string)) = some texts :=
  mapM_map_restored string string? (fun _ => rfl) texts

end ApiSurvey.Json
