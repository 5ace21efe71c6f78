import ApiSurvey.Toml.Statement

/-!
# Configuration documents

The table that the statements of a text define.  Every assignment goes to the table named by the
last header, the root table before the first one.
-/

namespace ApiSurvey.Toml

/-- A table under construction and the path of the table that assignments are for. -/
structure Progress where
  entries : Entries
  current : List String

namespace Progress

/-- The table after a header: `change` opens the table of the last key of the path. -/
def enter? (p : Progress) (path : List String) (change : String → Entries → Option Entries) :
    Option Progress :=
  match path.reverse with
  | [] => none
  | key :: keys =>
    (Entries.atHeader (change key) keys.reverse p.entries).map fun entries => ⟨entries, path⟩

/-- One statement further. -/
def step? (p : Progress) : Statement → Option Progress
  | .header path => p.enter? path Entries.openTable
  | .listHeader path => p.enter? path Entries.appendTable
  | .assign path v _ =>
    (Entries.atHeader (assignPath path v) p.current p.entries).map fun entries =>
      { p with entries := entries }

end Progress

/-- The table that statements define. -/
def ofStatements? (statements : List Statement) : Option Members :=
  (statements.foldlM Progress.step? ⟨[], []⟩).map fun p => Entries.finishEntries p.entries

/-- The table that a text defines. -/
def parse? (text : String) : Option Members :=
  (statements? text).bind ofStatements?

end ApiSurvey.Toml
