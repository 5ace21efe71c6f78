/-!
# Case mappings as runs of code points

A case mapping moves long stretches of code points by the same distance, often every second one
(the capital and the small letter alternate).  A mapping is kept as such runs, together with the
few characters that become more than one.
-/

namespace ApiSurvey.Text

/-- The code points `first, first + stride, …, last`, each mapped to the one `offset` further. -/
structure CaseRun where
  first : Nat
  last : Nat
  stride : Nat
  offset : Int
deriving Repr

namespace CaseRun

def covers (run : CaseRun) (n : Nat) : Bool :=
  run.first ≤ n && n ≤ run.last && (n - run.first) % run.stride == 0

def target (run : CaseRun) (n : Nat) : Nat :=
  (n + run.offset).toNat

end CaseRun

/-- A code point and the code points that it becomes. -/
abbrev CaseExpansion := Nat × List Nat

/-- The image of one character: its expansion if it has one, else its place in a run, else
itself. -/
def mapCase (runs : List CaseRun) (expansions : List CaseExpansion) (c : Char) : List Char :=
  match runs.find? (·.covers c.toNat) with
  | some run => [Char.ofNat (run.target c.toNat)]
  | none =>
    match expansions.lookup c.toNat with
    | some codes => codes.map Char.ofNat
    | none => [c]

end ApiSurvey.Text
