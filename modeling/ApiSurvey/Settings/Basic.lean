import ApiSurvey.Grouping.Options
import ApiSurvey.Number.Numeral
import ApiSurvey.Schema.Walk
import ApiSurvey.Toml.Table

/-!
# Settings

The settings of the commands, and how a configuration table describes them.  Every setting has a
default.  A table with a key that is no setting, or a value of the wrong type, describes none.
Instead of a table of settings there may be an array of their values in order, of which the
surplus elements do not count.
-/

namespace ApiSurvey

/-- Settings for breakdowns. -/
structure ReduceSettings where
  normalizer : Normalizer
  topN : Nat
deriving DecidableEq, Repr

/-- Settings for tables of fields. -/
structure SchemaSettings where
  maxDepth : Nat
  /-- The preferred media type of request bodies. -/
  contentType : Option String
deriving DecidableEq, Repr

structure Settings where
  reduce : ReduceSettings
  schema : SchemaSettings
deriving DecidableEq, Repr

namespace Settings

/-- The settings where nothing is configured. -/
def default : Settings :=
  ⟨⟨.lowerTrim, Grouping.Options.defaultTopN⟩, ⟨Schema.defaultMaxDepth, none⟩⟩

open Toml

/-- The values of the settings with the given names, by name or by position. -/
def fields? (names : List String) : Value → Option (List (Option Value))
  | .table members =>
    if members.all fun member => names.contains member.1
    then some (names.map fun name => members.lookup name)
    else none
  | .array items => some ((List.range names.length).map fun i => items[i]?)
  | _ => none

/-- A setting that keeps its default where it is left out. -/
def setting? {α : Type} (read : Value → Option α) (fallback : α) (v : Option Value) : Option α :=
  v.elim (some fallback) read

def isEmptyContainer : Value → Bool
  | .array [] => true
  | .table [] => true
  | _ => false

/-- A normalizer is named by its spelling, or by a table that binds the spelling to nothing. -/
def normalizer? : Value → Option Normalizer
  | .string spelling => Normalizer.named? spelling
  | .table [(spelling, v)] => if isEmptyContainer v then Normalizer.named? spelling else none
  | _ => none

/-- A size is an integer of 64 bits without sign. -/
def size? : Value → Option Nat
  | .integer n => if 0 ≤ n ∧ n < sizeBound then some n.toNat else none
  | _ => none

def text? : Value → Option String
  | .string text => some text
  | _ => none

def reduce? (v : Value) : Option ReduceSettings := do
  match ← fields? ["normalize", "top_n"] v with
  | [normalizer, topN] =>
    return ⟨← setting? normalizer? default.reduce.normalizer normalizer,
      ← setting? size? default.reduce.topN topN⟩
  | _ => none

def schema? (v : Value) : Option SchemaSettings := do
  match ← fields? ["max_depth", "content_type"] v with
  | [maxDepth, contentType] =>
    return ⟨← setting? size? default.schema.maxDepth maxDepth,
      ← setting? (fun v => (text? v).map some) default.schema.contentType contentType⟩
  | _ => none

/-- The settings that a configuration table describes. -/
def ofTable? (members : Members) : Option Settings := do
  match ← fields? ["reduce", "schema"] (.table members) with
  | [reduce, schema] =>
    return ⟨← setting? reduce? default.reduce reduce, ← setting? schema? default.schema schema⟩
  | _ => none

end Settings

end ApiSurvey
