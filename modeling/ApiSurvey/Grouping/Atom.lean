import ApiSurvey.FieldPath.Extract
import ApiSurvey.Json.Printer

/-!
# Atoms of a value

An extracted value contributes atoms, the texts that items are grouped by.  Scalars contribute
their text, null and absent values nothing, arrays the atoms of their elements.  An object
contributes one label: its name, else its id, else its compact JSON text.

Numbers are written for readers: no exponent, and no fraction where the value is whole.
-/

namespace ApiSurvey

namespace Number

/-- Whole doubles below this bound are written with all their digits. -/
def exactBound : Nat := Nat.pow 10 21

/-- The text of a number as an atom. -/
def atomText : Number → List Char
  | integer n => numeral n
  | double x =>
    if x.isWhole && x.wholePart < exactBound then x.signed (digits x.wholePart) else x.plain

end Number

namespace Json

/-- The label of an object with the given members. -/
def label (members : Members) : String :=
  let named (key : String) := (members.lookup key).bind string?
  ((named "name").or (named "id")).getD (object members).compact

mutual

/-- The atoms of a value, in order. -/
def atoms : Json → List String
  | null => []
  | bool b => [String.ofList (boolText b)]
  | number n => [String.ofList n.atomText]
  | string s => [s]
  | array items => atomsOfItems items
  | object members => [label members]

def atomsOfItems : List Json → List String
  | [] => []
  | v :: vs => atoms v ++ atomsOfItems vs

end

theorem atomsOfItems_eq_flatMap (vs : List Json) : atomsOfItems vs = vs.flatMap atoms := by
  induction vs with
  | nil => rfl
  | cons v vs ih => simp [atomsOfItems, ih]

end Json

/-- The atoms of an entry, which may be absent. -/
def entryAtoms (entry : Option Json) : List String :=
  entry.elim [] Json.atoms

namespace FieldPath

/-- The atoms that an item contributes through a path. -/
def atoms (p : FieldPath) (item : Json) : List String :=
  (p.extract item).flatMap entryAtoms

end FieldPath

end ApiSurvey
