import ApiSurvey.Text.Blank
import ApiSurvey.Text.Case

/-!
# Keys of groups

A normalizer makes a group key of an atom.  Atoms with the same key fall into one group.

Keys are ordered by their case-folded forms, code point by code point.  Keys with the same folded
form are ordered against their own code points, which puts small ASCII letters before capital
ones: `apple < Apple < Banana`.
-/

namespace ApiSurvey

/-! ## Normalizers -/

inductive Normalizer
  /-- Blanks at the ends removed, letters made small. -/
  | lowerTrim
  /-- Atoms as they are. -/
  | verbatim
deriving DecidableEq, Repr, Inhabited

/-- A spelling that names no normalizer. -/
structure UnknownNormalizer where
  spelling : String
deriving DecidableEq, Repr

namespace Normalizer

def all : List Normalizer := [lowerTrim, verbatim]

/-- The name in options and settings. -/
def spelling : Normalizer → String
  | lowerTrim => "lower-trim"
  | verbatim => "none"

def apply (n : Normalizer) (atom : String) : String :=
  match n with
  | lowerTrim => String.ofList (Text.lowercase (Text.trim atom.toList))
  | verbatim => atom

/-- The normalizer with a spelling, if there is one. -/
def named? (spelling : String) : Option Normalizer :=
  all.find? (·.spelling == spelling)

def parse (spelling : String) : Except UnknownNormalizer Normalizer :=
  match named? spelling with
  | some n => .ok n
  | none => .error ⟨spelling⟩

theorem named?_spelling (n : Normalizer) : named? n.spelling = some n := by
  cases n <;> rfl

end Normalizer

def UnknownNormalizer.message (e : UnknownNormalizer) : String :=
  "unknown normalizer '" ++ e.spelling ++ "', expected lower-trim or none"

/-! ## The order of keys -/

/-- The order by `fold`, equal images ordered against the texts themselves. -/
def collateBy (fold : List Char → List Char) (a b : String) : Ordering :=
  (compare (fold a.toList) (fold b.toList)).then (compare b.toList a.toList)

/-- The order of keys: by default case folding. -/
def collate (a b : String) : Ordering :=
  collateBy Text.fold a b

/-- The keys in order. -/
def sortKeys (keys : List String) : List String :=
  keys.mergeSort fun a b => (collate a b).isLE

end ApiSurvey
