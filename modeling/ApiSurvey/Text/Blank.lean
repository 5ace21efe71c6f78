/-!
# Sets of characters, blanks and trimming

A property of characters is kept as the runs of code points that have it.  Membership is by code
point, so a set can be read off a table without regard to what the characters look like.

The blank characters are those with the Unicode property `White_Space`: the no-break space, the
next-line control and the ideographic space are blank, the zero-width space and the byte order
mark are not.  Trimming removes the blanks at both ends and nothing else.
-/

namespace ApiSurvey.Text

/-! ## Sets of characters -/

/-- The characters whose code point lies in one of the runs, both ends included. -/
structure CharSet where
  runs : List (Nat × Nat)
deriving Repr

namespace CharSet

def contains (s : CharSet) (c : Char) : Bool :=
  s.runs.any fun run => run.1 ≤ c.toNat && c.toNat ≤ run.2

theorem contains_iff {s : CharSet} {c : Char} :
    s.contains c = true ↔ ∃ run ∈ s.runs, run.1 ≤ c.toNat ∧ c.toNat ≤ run.2 := by
  simp [contains]

end CharSet

/-! ## Blanks -/

/-- The characters with the property `White_Space`. -/
def blanks : CharSet :=
  ⟨[(0x09, 0x0D), (0x20, 0x20), (0x85, 0x85), (0xA0, 0xA0), (0x1680, 0x1680), (0x2000, 0x200A),
    (0x2028, 0x2029), (0x202F, 0x202F), (0x205F, 0x205F), (0x3000, 0x3000)]⟩

def isBlank (c : Char) : Bool :=
  blanks.contains c

def trimStart (cs : List Char) : List Char :=
  cs.dropWhile isBlank

def trimEnd (cs : List Char) : List Char :=
  (cs.reverse.dropWhile isBlank).reverse

/-- The text without the blanks before its first and after its last character that is not blank. -/
def trim (cs : List Char) : List Char :=
  trimEnd (trimStart cs)

/-- Whether nothing but blanks is in the text. -/
def allBlank (cs : List Char) : Bool :=
  cs.all isBlank

@[simp] theorem trim_nil : trim [] = [] := rfl

theorem dropWhile_isBlank_eq_nil_iff {cs : List Char} :
    cs.dropWhile isBlank = [] ↔ allBlank cs = true := by
  induction cs with
  | nil => simp [allBlank]
  | cons c cs ih => by_cases h : isBlank c <;> simp_all [allBlank, List.dropWhile]

theorem trimStart_eq_nil_iff {cs : List Char} : trimStart cs = [] ↔ allBlank cs = true :=
  dropWhile_isBlank_eq_nil_iff

end ApiSurvey.Text
