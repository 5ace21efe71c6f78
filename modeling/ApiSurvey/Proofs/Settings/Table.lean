import ApiSurvey.Settings.Basic
import Mathlib.Data.List.Nodup
import Mathlib.Tactic.Common

/-!
# What a configuration table gives to the settings

A configuration table has sections, and a section gives values to settings: by name if it is a
table, by position if it is an array.  The settings that a table describes are the ones that it
gives, and where it gives none the default ones.
-/

namespace ApiSurvey.Settings

open Toml

/-- The value that a section gives to a name among `names`. -/
def memberOf? (names : List String) (name : String) : Value → Option Value
  | .table members => members.lookup name
  | .array items => items[names.idxOf name]?
  | _ => none

/-- The value that a configuration table gives to a setting. -/
def given? (members : Members) (sectionName : String) (names : List String) (name : String) :
    Option Value :=
  (members.lookup sectionName).bind (memberOf? names name)

/-- The names of the settings for breakdowns, in their order. -/
def reduceNames : List String := ["normalize", "top_n"]

/-- The names of the settings for tables of fields, in their order. -/
def schemaNames : List String := ["max_depth", "content_type"]

/-- The optional text that a value is. -/
def optionalText? (v : Value) : Option (Option String) :=
  (text? v).map some

/-- Each setting is what the table gives, or the default one. -/
structure DescribedBy (members : Members) (s : Settings) : Prop where
  normalizer : setting? normalizer? .lowerTrim (given? members "reduce" reduceNames "normalize")
    = some s.reduce.normalizer
  topN : setting? size? Grouping.Options.defaultTopN (given? members "reduce" reduceNames "top_n")
    = some s.reduce.topN
  maxDepth : setting? size? Schema.defaultMaxDepth
    (given? members "schema" schemaNames "max_depth") = some s.schema.maxDepth
  contentType : setting? optionalText? none (given? members "schema" schemaNames "content_type")
    = some s.schema.contentType

variable {members : Members} {v : Value} {names : List String}

/-- The values of a section that can be read are those of its names. -/
lemma fields?_eq_some {values : List (Option Value)} (hnodup : names.Nodup)
    (h : fields? names v = some values) :
    values = names.map fun name => memberOf? names name v := by
  cases v with
  | table entries =>
    rw [fields?] at h
    split at h
    · exact (Option.some.inj h).symm
    · contradiction
  | array items =>
    obtain rfl := Option.some.inj h
    refine List.ext_getElem (by simp) fun i hi hi' => ?_
    have hlength : i < names.length := by simpa using hi'
    have hidx : names.idxOf names[i] = i := hnodup.idxOf_getElem i hlength
    simp [memberOf?, hidx]
  | _ => contradiction

/-- A setting of a section that can be read is the one that the table gives, also where the whole
section is left out. -/
lemma setting?_given? {α σ : Type} {sectionName name : String} {read : Value → Option σ}
    {field : Value → Option α} {fallback described : σ} (get : σ → α)
    (hsection : setting? read fallback (members.lookup sectionName) = some described)
    (hread : ∀ v r, read v = some r →
      setting? field (get fallback) (memberOf? names name v) = some (get r)) :
    setting? field (get fallback) (given? members sectionName names name)
      = some (get described) := by
  cases hlookup : members.lookup sectionName with
  | none =>
    rw [hlookup] at hsection
    obtain rfl : fallback = described := Option.some.inj hsection
    rw [given?, hlookup]
    rfl
  | some v =>
    rw [hlookup] at hsection
    rw [given?, hlookup]
    exact hread v described hsection

lemma reduce?_eq_some {r : ReduceSettings} (h : reduce? v = some r) :
    setting? normalizer? .lowerTrim (memberOf? reduceNames "normalize" v) = some r.normalizer
      ∧ setting? size? Grouping.Options.defaultTopN (memberOf? reduceNames "top_n" v)
        = some r.topN := by
  rw [reduce?, Option.bind_eq_bind, Option.bind_eq_some_iff] at h
  obtain ⟨values, hvalues, hread⟩ := h
  rw [fields?_eq_some (by decide) hvalues] at hread
  simp only [List.map_cons, List.map_nil, Option.bind_eq_bind, Option.bind_eq_some_iff,
    Option.pure_def, Option.some.injEq] at hread
  obtain ⟨normalizer, hnormalizer, topN, htopN, rfl⟩ := hread
  exact ⟨hnormalizer, htopN⟩

lemma schema?_eq_some {r : SchemaSettings} (h : schema? v = some r) :
    setting? size? Schema.defaultMaxDepth (memberOf? schemaNames "max_depth" v) = some r.maxDepth
      ∧ setting? optionalText? none (memberOf? schemaNames "content_type" v)
        = some r.contentType := by
  rw [schema?, Option.bind_eq_bind, Option.bind_eq_some_iff] at h
  obtain ⟨values, hvalues, hread⟩ := h
  rw [fields?_eq_some (by decide) hvalues] at hread
  simp only [List.map_cons, List.map_nil, Option.bind_eq_bind, Option.bind_eq_some_iff,
    Option.pure_def, Option.some.injEq] at hread
  obtain ⟨maxDepth, hmaxDepth, contentType, hcontentType, rfl⟩ := hread
  exact ⟨hmaxDepth, hcontentType⟩

/-- The settings that a table describes are those that it gives. -/
theorem describedBy_of_ofTable? {s : Settings} (h : ofTable? members = some s) :
    DescribedBy members s := by
  rw [ofTable?, Option.bind_eq_bind, Option.bind_eq_some_iff] at h
  obtain ⟨values, hvalues, hread⟩ := h
  rw [fields?_eq_some (by decide) hvalues] at hread
  simp only [List.map_cons, List.map_nil, Option.bind_eq_bind, Option.bind_eq_some_iff,
    Option.pure_def, Option.some.injEq, memberOf?] at hread
  obtain ⟨reduce, hreduce, schema, hschema, rfl⟩ := hread
  constructor
  · exact setting?_given? ReduceSettings.normalizer hreduce fun _ _ h => (reduce?_eq_some h).1
  · exact setting?_given? ReduceSettings.topN hreduce fun _ _ h => (reduce?_eq_some h).2
  · exact setting?_given? SchemaSettings.maxDepth hschema fun _ _ h => (schema?_eq_some h).1
  · exact setting?_given? SchemaSettings.contentType hschema fun _ _ h => (schema?_eq_some h).2

end ApiSurvey.Settings
