import ApiSurvey.Text.FoldTable
import ApiSurvey.Text.LetterContext
import ApiSurvey.Text.LowercaseTable
import ApiSurvey.Text.UppercaseTable

/-!
# Lowercase, uppercase and case folding

The full Unicode mappings.  Lowercasing looks at the context of one letter only: a capital sigma
that ends a word becomes `ς`, any other becomes `σ`.  Folding and uppercasing are per character.
The mappings on ASCII letters alone stand beside them, for names that are ASCII by definition.
-/

namespace ApiSurvey.Text

def lowercaseChar : Char → List Char :=
  mapCase lowercaseRuns lowercaseExpansions

def uppercaseChar : Char → List Char :=
  mapCase uppercaseRuns uppercaseExpansions

def foldChar : Char → List Char :=
  mapCase foldRuns foldExpansions

/-- Whether a cased letter comes first, ignorable characters passed over. -/
def meetsCased (cs : List Char) : Bool :=
  match cs.dropWhile caseIgnorable.contains with
  | [] => false
  | c :: _ => cased.contains c

/-- The lowercase form of a text that follows `before`, which is given nearest character first. -/
def lowercaseAfter (before : List Char) : List Char → List Char
  | [] => []
  | c :: cs =>
    let image :=
      if c = 'Σ' then [if meetsCased before && !meetsCased cs then 'ς' else 'σ']
      else lowercaseChar c
    image ++ lowercaseAfter (c :: before) cs

/-- The full lowercase form of a text. -/
def lowercase (cs : List Char) : List Char :=
  lowercaseAfter [] cs

/-- The full uppercase form of a text. -/
def uppercase (cs : List Char) : List Char :=
  cs.flatMap uppercaseChar

/-- The default full case folding of a text. -/
def fold (cs : List Char) : List Char :=
  cs.flatMap foldChar

/-- The ASCII capital letters made small, all else kept. -/
def asciiLower (cs : List Char) : List Char :=
  cs.map Char.toLower

/-- Equality of texts up to the case of ASCII letters. -/
def eqAsciiCase (a b : List Char) : Bool :=
  asciiLower a == asciiLower b

@[simp] theorem lowercase_nil : lowercase [] = [] := rfl

@[simp] theorem fold_nil : fold [] = [] := rfl

theorem fold_append (a b : List Char) : fold (a ++ b) = fold a ++ fold b := by
  simp [fold]

end ApiSurvey.Text
