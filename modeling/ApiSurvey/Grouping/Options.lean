import ApiSurvey.Grouping.Key
import ApiSurvey.Json.Record

/-!
# Options of a breakdown

What is grouped, by what, and how much of it is listed.  The JSON form of the options leaves out
what is absent or empty; reading it back gives the same options, members left out taking their
defaults.
-/

namespace ApiSurvey.Grouping

structure Options where
  /-- The path of the list whose items are grouped; empty for the response itself. -/
  arrayPath : String
  /-- The path that is tried first, from each item. -/
  groupByPath : Option String
  /-- The paths tried after it, in order. -/
  fallbacks : List String
  normalizer : Normalizer
  /-- How many groups are listed at the top. -/
  topN : Nat
deriving DecidableEq, Repr

namespace Options

/-- The number of groups listed where nothing else is said. -/
def defaultTopN : Nat := 10

/-- The options for a list with everything else at its default. -/
def ofArrayPath (arrayPath : String) : Options :=
  ⟨arrayPath, none, [], .lowerTrim, defaultTopN⟩

/-- The group-by paths in the order in which they are tried, blank ones left out. -/
def candidates (o : Options) : List String :=
  (o.groupByPath.toList ++ o.fallbacks).filter fun path => !Text.allBlank path.toList

/-- The names of the options, in order. -/
def memberNames : List String :=
  ["arrayPath", "groupByPath", "fallbackGroupBy", "normalize", "topN"]

def toJson (o : Options) : Json :=
  .object <|
    [("arrayPath", .string o.arrayPath)]
    ++ (o.groupByPath.map fun path => ("groupByPath", Json.string path)).toList
    ++ (if o.fallbacks.isEmpty then []
        else [("fallbackGroupBy", .array (o.fallbacks.map .string))])
    ++ [("normalize", .string o.normalizer.spelling), ("topN", .ofNat o.topN)]

/-- A normalizer is named by its spelling, or by an object that binds the spelling to null. -/
def readNormalizer? : Json → Option Normalizer
  | .string spelling => Normalizer.named? spelling
  | .object [(spelling, .null)] => Normalizer.named? spelling
  | _ => none

/-- The options that a record describes. -/
def ofJson? (v : Json) : Option Options := do
  match ← v.record? memberNames with
  | [arrayPath, groupByPath, fallbacks, normalizer, topN] =>
    return {
      arrayPath := ← Json.required Json.string? arrayPath
      groupByPath := ← Json.optional Json.nullableString? none groupByPath
      fallbacks := ← Json.optional Json.strings? [] fallbacks
      normalizer := ← Json.optional readNormalizer? .lowerTrim normalizer
      topN := ← Json.optional Json.size? defaultTopN topN }
  | _ => none

end Options

end ApiSurvey.Grouping
