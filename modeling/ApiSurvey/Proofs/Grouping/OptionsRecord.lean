import ApiSurvey.Grouping.Options
import ApiSurvey.Proofs.Json.Compact

/-!
# Options written as records and read back

Options are written as an object, and read from a record.  Two members are left out where they would
say nothing, the group-by path if there is none and the list of fallbacks if it is empty, and this
is what is read where they are missing.  The normalizer and the number of listed groups have
defaults too, but they are written whatever they are.
-/

namespace ApiSurvey

namespace Json

/-- An object with one member left out. -/
def without (v : Json) (name : String) : Json :=
  match v with
  | object members => object (members.filter fun entry => entry.1 ≠ name)
  | v => v

lemma without_of_get? {v : Json} {name : String} (h : v.get? name = none) : v.without name = v := by
  cases v with
  | object members =>
    rw [get?, List.lookup_eq_none_iff] at h
    have hkeep : ∀ entry ∈ members, decide (entry.1 ≠ name) = true := by
      intro entry hentry
      have hne : name ≠ entry.1 := by simpa using h entry hentry
      exact decide_eq_true hne.symm
    rw [without, List.filter_eq_self.2 hkeep]
  | _ => rfl

end Json

namespace Grouping.Options

variable (o : Options)

/-- The members that the options are written with, in their order. -/
lemma record?_toJson : o.toJson.record? memberNames = some
    [some (.string o.arrayPath), o.groupByPath.map .string,
      if o.fallbacks.isEmpty then none else some (.array (o.fallbacks.map .string)),
      some (.string o.normalizer.spelling), some (.ofNat o.topN)] := by
  cases hpath : o.groupByPath <;> cases hfallbacks : o.fallbacks.isEmpty <;>
    simp [toJson, hpath, hfallbacks, Json.record?, memberNames, Json.lookup_cons]

lemma groupByPath_restored (path : Option String) :
    Json.optional Json.nullableString? none (path.map .string) = some path := by
  cases path <;> rfl

lemma fallbacks_restored (fallbacks : List String) :
    Json.optional Json.strings? []
      (if fallbacks.isEmpty then none else some (.array (fallbacks.map .string)))
    = some fallbacks := by
  cases fallbacks with
  | nil => rfl
  | cons path paths => exact Json.strings?_restored (path :: paths)

lemma normalizer_restored (n : Normalizer) :
    Json.optional readNormalizer? .lowerTrim (some (.string n.spelling)) = some n :=
  Normalizer.named?_spelling n

lemma topN_restored (topN : Nat) :
    Json.optional Json.size? defaultTopN (some (.ofNat topN)) = some topN :=
  Json.size?_ofNat topN

lemma ofJson?_restored : ofJson? o.toJson = some o := by
  rw [ofJson?, record?_toJson]
  simp only [Json.required, Option.bind_some, Json.string?, groupByPath_restored,
    fallbacks_restored, normalizer_restored, topN_restored, Option.bind_eq_bind, Option.pure_def]

/-- The members of the record are texts, a list of texts and a number, under names of their own. -/
lemma restorable_toJson (h : o.topN < sizeBound) : Json.Restorable 2 o.toJson := by
  refine .object ?_ fun entry hentry => ?_
  · cases o.groupByPath <;> cases o.fallbacks.isEmpty <;> simp
  · simp only [List.mem_append, List.mem_cons, List.not_mem_nil, or_false, Option.mem_toList,
      Option.map_eq_some_iff] at hentry
    rcases hentry with ((rfl | ⟨path, -, rfl⟩) | hentry) | rfl | rfl
    · exact .string 1 _
    · exact .string 1 _
    · split at hentry
      · contradiction
      · obtain rfl := List.mem_singleton.1 hentry
        refine .array fun v hv => ?_
        obtain ⟨path, -, rfl⟩ := List.mem_map.1 hv
        exact .string 0 path
    · exact .string 1 _
    · have hpow : 0 < Nat.pow 2 63 := Nat.two_pow_pos 63
      exact .integer 1 ⟨by omega, by omega⟩

lemma parse?_restored (h : o.topN < sizeBound) :
    (Json.parse? o.toJson.compact).bind ofJson? = some o := by
  have hparse := Json.parse?_compact (o.restorable_toJson h) (by decide)
  rw [hparse, Option.bind_some, ofJson?_restored]

/-! ## Members that are left out -/

/-- The member is left out of the record of some options. -/
def Omittable (name : String) : Prop :=
  ∃ o : Options, o.toJson.get? name = none

lemma get?_toJson : memberNames.map o.toJson.get? =
    [some (.string o.arrayPath), o.groupByPath.map .string,
      if o.fallbacks.isEmpty then none else some (.array (o.fallbacks.map .string)),
      some (.string o.normalizer.spelling), some (.ofNat o.topN)] :=
  Option.some.inj o.record?_toJson

lemma without_groupByPath :
    o.toJson.without "groupByPath" = { o with groupByPath := none }.toJson := by
  cases hpath : o.groupByPath <;> cases hfallbacks : o.fallbacks.isEmpty <;>
    simp [toJson, Json.without, hpath, hfallbacks]

lemma without_fallbacks :
    o.toJson.without "fallbackGroupBy" = { o with fallbacks := [] }.toJson := by
  cases hpath : o.groupByPath <;> cases hfallbacks : o.fallbacks.isEmpty <;>
    simp [toJson, Json.without, hpath, hfallbacks]

lemma get?_groupByPath : o.toJson.get? "groupByPath" = o.groupByPath.map .string :=
  (List.cons.inj (List.cons.inj o.get?_toJson).2).1

lemma get?_fallbacks : o.toJson.get? "fallbackGroupBy"
    = if o.fallbacks.isEmpty then none else some (.array (o.fallbacks.map .string)) :=
  (List.cons.inj (List.cons.inj (List.cons.inj o.get?_toJson).2).2).1

lemma omittable_iff {name : String} (hname : name ∈ memberNames) :
    Omittable name ↔ name = "groupByPath" ∨ name = "fallbackGroupBy" := by
  constructor
  · rintro ⟨o, ho⟩
    have hwritten := o.get?_toJson
    simp only [memberNames, List.map_cons, List.cons.injEq] at hwritten
    simp only [memberNames, List.mem_cons, List.not_mem_nil, or_false] at hname
    rcases hname with rfl | rfl | rfl | rfl | rfl <;> simp_all
  · rintro (rfl | rfl)
    · exact ⟨ofArrayPath "", get?_groupByPath _⟩
    · exact ⟨ofArrayPath "", get?_fallbacks _⟩

lemma omitted_iff {name : String} (hname : name ∈ memberNames) : o.toJson.get? name = none ↔
    Omittable name ∧ ofJson? (o.toJson.without name) = some o := by
  constructor
  · intro h
    refine ⟨⟨o, h⟩, ?_⟩
    rw [Json.without_of_get? h, ofJson?_restored]
  · rintro ⟨homittable, hread⟩
    obtain rfl | rfl := (omittable_iff hname).1 homittable
    · rw [without_groupByPath, ofJson?_restored] at hread
      rw [get?_groupByPath, ← Option.some.inj hread]
      rfl
    · rw [without_fallbacks, ofJson?_restored] at hread
      rw [get?_fallbacks, ← Option.some.inj hread]
      rfl

/-- **Options are read back from their record**, as a value and, for a number of groups that fits in
64 bits, as text, and so are the paths that are tried.  Two members are left out of some records,
and a record lacks just those of them for which the options hold what is read where the member is
missing.  The other members are written even where the options hold their defaults. -/
theorem options_restored :
    ofJson? o.toJson = some o
    ∧ (o.topN < sizeBound → (Json.parse? o.toJson.compact).bind ofJson? = some o)
    ∧ (ofJson? o.toJson).map candidates = some o.candidates
    ∧ (∀ name ∈ memberNames, Omittable name ↔ name = "groupByPath" ∨ name = "fallbackGroupBy")
    ∧ ∀ name ∈ memberNames, o.toJson.get? name = none ↔
        Omittable name ∧ ofJson? (o.toJson.without name) = some o := by
  refine ⟨ofJson?_restored o, parse?_restored o, ?_, fun name => omittable_iff,
    fun name => omitted_iff o⟩
  rw [ofJson?_restored, Option.map_some]

/-- No group-by path, and a blank path among the fallbacks. -/
theorem options_restored_blankFallback :
    let o : Options := ⟨"", none, ["  ", "state"], .verbatim, 3⟩
    (Json.parse? o.toJson.compact).bind ofJson? = some o
    ∧ (ofJson? o.toJson).map candidates = some o.candidates
    ∧ ofJson? (o.toJson.without "groupByPath") = some o
    ∧ ofJson? (o.toJson.without "fallbackGroupBy") ≠ some o := by
  intro o
  obtain ⟨-, htext, hcandidates, homittable, homitted⟩ := options_restored o
  have hpath : o.toJson.get? "groupByPath" = none := by decide
  have hfallbacks : o.toJson.get? "fallbackGroupBy" ≠ none := by decide
  refine ⟨htext (by decide), hcandidates, ((homitted _ (by decide)).1 hpath).2, fun hread => ?_⟩
  have hcan : Omittable "fallbackGroupBy" := (homittable _ (by decide)).2 (.inr rfl)
  exact hfallbacks ((homitted _ (by decide)).2 ⟨hcan, hread⟩)

end Grouping.Options

end ApiSurvey
