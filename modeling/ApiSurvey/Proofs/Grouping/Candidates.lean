import ApiSurvey.Grouping.Breakdown
import ApiSurvey.Proofs.Grouping.Tally

/-!
# The path that is used

The paths to group by are tried in order, and an attempt fails just if no item has an atom at its
path.  So the path that is used is the first one at which some item has an atom.  The attempts
before it leave nothing behind: the breakdown is the one along this path, the same that it would be
if no other path were given.
-/

namespace ApiSurvey.Grouping

/-! ## Attempts that fail -/

/-- The keys that items contribute through a path, item by item. -/
def contributedKeys (items : List Json) (path : FieldPath) (normalizer : Normalizer) :
    List String :=
  (items.flatMap path.atoms).map normalizer.apply

lemma tally_run (items : List Json) (path : FieldPath) (normalizer : Normalizer) :
    (Attempt.run items path normalizer).tally
      = .ofKeys (contributedKeys items path normalizer) := by
  rw [Attempt.run, contributedKeys, List.flatMap_def]

/-- Whether some item has an atom at a path. -/
def yields (items : List Json) (path : String) : Bool :=
  items.any fun item => !((FieldPath.parse path).atoms item).isEmpty

section

variable {items : List Json} {normalizer : Normalizer} {path : String}

lemma yields_eq_false_iff :
    yields items path = false ↔ ∀ item ∈ items, (FieldPath.parse path).atoms item = [] := by
  simp [yields]

/-- An attempt makes no key just if no item has an atom at its path. -/
lemma tally_run_eq_nil_iff :
    (Attempt.run items (.parse path) normalizer).tally = [] ↔ yields items path = false := by
  rw [tally_run, Tally.ofKeys_eq_nil_iff, contributedKeys, List.map_eq_nil_iff,
    List.flatMap_eq_nil_iff, yields_eq_false_iff]

/-- **The first path that yields an atom succeeds.** -/
lemma firstSuccess_eq_find? (paths : List String) :
    firstSuccess items normalizer paths
      = (paths.find? (yields items)).map fun path =>
        (path, .run items (.parse path) normalizer) := by
  induction paths with
  | nil => rfl
  | cons path paths ih =>
    rw [firstSuccess, List.find?_cons]
    cases hyields : yields items path with
    | true =>
      have htally : (Attempt.run items (.parse path) normalizer).tally ≠ [] := by
        simp [tally_run_eq_nil_iff, hyields]
      simp [htally]
    | false => simp [tally_run_eq_nil_iff.2 hyields, ih]

end

/-! ## The breakdown along a path -/

namespace Breakdown

/-- The breakdown with the groups that one path makes. -/
def along (items : List Json) (incomplete : Bool) (o : Options) (path : String) : Breakdown :=
  let attempt := Attempt.run items (.parse path) o.normalizer
  let groups := attempt.groups items.length
  ⟨o.arrayPath, some path, groups, groups.take o.topN, items.length, attempt.missing,
    attempt.multiValued, incomplete, none⟩

/-- The breakdown where no path makes any groups. -/
def ungrouped (items : List Json) (incomplete : Bool) (o : Options) : Breakdown :=
  match o.candidates with
  | [] => ⟨o.arrayPath, none, [], [], items.length, 0, false, incomplete, some .noPath⟩
  | candidates =>
    ⟨o.arrayPath, none, [], [], items.length, items.length, false, incomplete,
      some (.noValues candidates)⟩

end Breakdown

/-- The options with one path as the only one to group by. -/
def Options.only (o : Options) (path : String) : Options :=
  { o with groupByPath := some path, fallbacks := [] }

section

variable {items : List Json} {incomplete : Bool} {o : Options} {c : String}

lemma Breakdown.groups_ungrouped : (Breakdown.ungrouped items incomplete o).groups = [] := by
  rw [Breakdown.ungrouped]
  split <;> rfl

/-- **A breakdown is the one along the first path that yields an atom.** -/
lemma breakdownItems_eq :
    breakdownItems items incomplete o
      = (o.candidates.find? (yields items)).elim (.ungrouped items incomplete o)
        (.along items incomplete o) := by
  rw [breakdownItems, Breakdown.ungrouped]
  cases o.candidates with
  | nil => rfl
  | cons path paths =>
    simp only [firstSuccess_eq_find?]
    cases (path :: paths).find? (yields items) <;> rfl

lemma pathUsed_breakdownItems :
    (breakdownItems items incomplete o).pathUsed = o.candidates.find? (yields items) := by
  rw [breakdownItems_eq]
  cases o.candidates.find? (yields items) with
  | none =>
    rw [Option.elim_none, Breakdown.ungrouped]
    split <;> rfl
  | some c => rfl

/-- The breakdown along the path that is used. -/
lemma breakdownItems_eq_along (h : (breakdownItems items incomplete o).pathUsed = some c) :
    breakdownItems items incomplete o = .along items incomplete o c := by
  rw [pathUsed_breakdownItems] at h
  rw [breakdownItems_eq, h, Option.elim_some]

lemma breakdownItems_eq_ungrouped (h : (breakdownItems items incomplete o).pathUsed = none) :
    breakdownItems items incomplete o = .ungrouped items incomplete o := by
  rw [pathUsed_breakdownItems] at h
  rw [breakdownItems_eq, h, Option.elim_none]

/-- The groups of a path that is used are those of its attempt, the first of them at the top. -/
lemma breakdownItems_of_pathUsed (h : (breakdownItems items incomplete o).pathUsed = some c) :
    c ∈ o.candidates
      ∧ (breakdownItems items incomplete o).groups
        = (Attempt.run items (.parse c) o.normalizer).groups items.length
      ∧ (breakdownItems items incomplete o).top
        = (breakdownItems items incomplete o).groups.take o.topN := by
  have hmem : c ∈ o.candidates := List.mem_of_find?_eq_some (pathUsed_breakdownItems ▸ h)
  rw [breakdownItems_eq_along h]
  exact ⟨hmem, rfl, rfl⟩

/-- A path that is used is used as well if it is the only one. -/
lemma breakdownItems_only (h : (breakdownItems items incomplete o).pathUsed = some c) :
    breakdownItems items incomplete (o.only c) = breakdownItems items incomplete o := by
  have hfind : o.candidates.find? (yields items) = some c := pathUsed_breakdownItems ▸ h
  have hyields : yields items c = true := List.find?_some hfind
  have honly : (o.only c).candidates = [c] := by
    have hblank : Text.allBlank c.toList = false := by
      simpa using (List.mem_filter.1 (List.mem_of_find?_eq_some hfind)).2
    simp [Options.only, Options.candidates, hblank]
  have hused : (breakdownItems items incomplete (o.only c)).pathUsed = some c := by
    rw [pathUsed_breakdownItems, honly, List.find?_cons_of_pos hyields]
  rw [breakdownItems_eq_along hused, breakdownItems_eq_along h]
  rfl

end

/-! ## The breakdown of a response -/

section

variable {response : Json} {o : Options} {items : List Json}

lemma breakdown_eq_ok_iff {b : Breakdown} :
    breakdown response o = .ok b ↔ ∃ items, response.resolve? o.arrayPath = some (.array items)
      ∧ b = breakdownItems items ((Page.ofResponse response).isIncomplete items.length) o := by
  rw [breakdown]
  split
  · next items hitems => simp [hitems, eq_comm]
  · next found hfound =>
    constructor
    · intro h
      cases h
    · rintro ⟨items, hitems, -⟩
      exact absurd hitems (hfound items)

/-- **The first path at which some item has an atom decides the breakdown alone**; nothing is
grouped where there is none. -/
theorem breakdown_first_yielding (hitems : response.resolve? o.arrayPath = some (.array items))
    (hcandidates : o.candidates ≠ []) :
    ∃ b, breakdown response o = .ok b
      ∧ b.pathUsed = o.candidates.find? (yields items)
      ∧ (∀ c, b.pathUsed = some c → breakdown response (o.only c) = .ok b)
      ∧ (b.pathUsed = none → b.groups = [] ∧ b.top = [] ∧ b.total = items.length
        ∧ b.missing = b.total ∧ b.multiValued = false) := by
  refine ⟨_, breakdown_eq_ok_iff.2 ⟨items, hitems, rfl⟩, pathUsed_breakdownItems, ?_, ?_⟩
  · intro c hused
    exact breakdown_eq_ok_iff.2 ⟨items, hitems, (breakdownItems_only hused).symm⟩
  · intro hnone
    rw [breakdownItems_eq_ungrouped hnone, Breakdown.ungrouped]
    split
    · next hnil => exact absurd hnil hcandidates
    · exact ⟨rfl, rfl, rfl, rfl, rfl⟩

end

/-! Parcels with labels but without a state: the path that is tried first leads to null and to an
empty list, the next one is blank. -/

def parcel (state : Json) (labels : List String) : Json :=
  .object [("state", state), ("labels", .array (labels.map .string))]

def parcels : List Json := [parcel .null ["fragile"], parcel (.array []) ["urgent", "fragile"]]

def byStateOrLabel : Options :=
  { Options.ofArrayPath "parcels" with
    groupByPath := some "state", fallbacks := [" ", "state.name", "labels", "state"] }

theorem breakdown_first_yielding_byLabel :
    (Json.object [("parcels", .array parcels)]).resolve? byStateOrLabel.arrayPath
        = some (.array parcels)
      ∧ byStateOrLabel.candidates ≠ []
      ∧ ∃ b, breakdown (.object [("parcels", .array parcels)]) byStateOrLabel = .ok b
        ∧ b.pathUsed = some "labels"
        ∧ breakdown (.object [("parcels", .array parcels)]) (byStateOrLabel.only "labels")
          = .ok b := by
  have hresolve : (Json.object [("parcels", .array parcels)]).resolve? byStateOrLabel.arrayPath
      = some (.array parcels) := rfl
  have hcandidates : byStateOrLabel.candidates ≠ [] := by decide
  obtain ⟨b, hok, hused, honly, -⟩ := breakdown_first_yielding hresolve hcandidates
  have hlabels : byStateOrLabel.candidates.find? (yields parcels) = some "labels" := by
    decide +kernel
  exact ⟨hresolve, hcandidates, b, hok, hused.trans hlabels, honly _ (hused.trans hlabels)⟩

end ApiSurvey.Grouping
