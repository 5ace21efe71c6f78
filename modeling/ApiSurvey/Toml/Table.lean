/-!
# Values and tables

Fractional numbers and points in time are kept as they are written: nothing here computes with them.
So are numerals that have the form of an integer but not its digits: a text may contain them, but
nothing can be read from them.

A configuration text defines tables in three ways: by a header, by a dotted key, and by being named
on the way to another one.  Each table is defined once.  A header may complete a table that was
only named on the way; a dotted key may add to a table that dotted keys have made, and to no other.
A header in double brackets appends to a list of tables, whose last element is then the one that
further headers mean.  A value that was assigned is closed.
-/

namespace ApiSurvey.Toml

/-! ## Values -/

/-- A value of a configuration text. -/
inductive Value
  | string (text : String)
  | integer (value : Int)
  /-- An integer by its form, but with letters among its digits or without digits. -/
  | illegible (literal : String)
  | float (literal : String)
  | boolean (value : Bool)
  | dateTime (literal : String)
  | array (items : List Value)
  | table (members : List (String × Value))
deriving Inhabited

/-- The members of a table in the order of the text. -/
abbrev Members := List (String × Value)

/-! ## Tables under construction -/

/-- How a table came to be. -/
inductive Origin
  | header
  | dottedKey
  /-- It was named on the way of a header. -/
  | onTheWay
deriving DecidableEq, Repr

/-- What a key of a table under construction is bound to. -/
inductive Entry
  | value (v : Value)
  | table (origin : Origin) (entries : List (String × Entry))
  /-- A list of tables, the last one first. -/
  | tables (elements : List (List (String × Entry)))
deriving Inhabited

/-- A table under construction. -/
abbrev Entries := List (String × Entry)

namespace Entries

/-- The entries with `key` bound anew, in its place if it has one. -/
def put (entries : Entries) (key : String) (entry : Entry) : Entries :=
  match entries with
  | [] => [(key, entry)]
  | (k, old) :: rest => if k = key then (k, entry) :: rest else (k, old) :: put rest key entry

/-- The entries changed by `change` at the table that the keys of a header lead to. -/
def atHeader (change : Entries → Option Entries) : List String → Entries → Option Entries
  | [], entries => change entries
  | key :: keys, entries =>
    match entries.lookup key with
    | none => (atHeader change keys []).map fun sub => put entries key (.table .onTheWay sub)
    | some (.value _) => none
    | some (.table origin sub) =>
      (atHeader change keys sub).map fun sub => put entries key (.table origin sub)
    | some (.tables []) => none
    | some (.tables (last :: others)) =>
      (atHeader change keys last).map fun last => put entries key (.tables (last :: others))

/-- The entries with a table opened by a header. -/
def openTable (key : String) (entries : Entries) : Option Entries :=
  match entries.lookup key with
  | none => some (put entries key (.table .header []))
  | some (.table .onTheWay sub) => some (put entries key (.table .header sub))
  | some _ => none

/-- The entries with one more table in a list of tables. -/
def appendTable (key : String) (entries : Entries) : Option Entries :=
  match entries.lookup key with
  | none => some (put entries key (.tables [[]]))
  | some (.tables elements) => some (put entries key (.tables ([] :: elements)))
  | some _ => none

/-- The entries with a value assigned to a key that has none. -/
def assignKey (key : String) (v : Value) (entries : Entries) : Option Entries :=
  match entries.lookup key with
  | none => some (put entries key (.value v))
  | some _ => none

/-- The entries with a value assigned to a dotted key: `keys` lead to the table of `key`. -/
def assign (key : String) (v : Value) : List String → Entries → Option Entries
  | [], entries => assignKey key v entries
  | next :: keys, entries =>
    match entries.lookup next with
    | none => (assign key v keys []).map fun sub => put entries next (.table .dottedKey sub)
    | some (.table .dottedKey sub) =>
      (assign key v keys sub).map fun sub => put entries next (.table .dottedKey sub)
    | some (.table .onTheWay sub) =>
      if keys.isEmpty then none
      else (assign key v keys sub).map fun sub => put entries next (.table .onTheWay sub)
    | some (.tables (last :: others)) =>
      if keys.isEmpty then none
      else (assign key v keys last).map fun last => put entries next (.tables (last :: others))
    | some _ => none

mutual

/-- The value that an entry has become. -/
def finishEntry : Entry → Value
  | .value v => v
  | .table _ entries => .table (finishEntries entries)
  | .tables elements => .array (finishTables elements).reverse

def finishEntries : List (String × Entry) → Members
  | [] => []
  | (key, entry) :: rest => (key, finishEntry entry) :: finishEntries rest

def finishTables : List (List (String × Entry)) → List Value
  | [] => []
  | entries :: rest => .table (finishEntries entries) :: finishTables rest

end

end Entries

end ApiSurvey.Toml
