import ApiSurvey.Proofs.FieldPath.Rendering
import ApiSurvey.Proofs.FieldPath.Replace
import ApiSurvey.Proofs.Grouping.Candidates
import ApiSurvey.Proofs.Json.DistinctKeys

/-!
# Following a hint

Where the array path leads to no list, the error hints at lists that are there: the response itself,
or some members of it by their keys.  A key is not yet a path, though.  As a path it is cut at its
points and trimmed, so it leads to its member only if it has neither points nor blanks at its ends;
and the empty key, as a path, leads to the response and not to a member.
-/

namespace ApiSurvey.Grouping

open FieldPath

variable {response : Json} {o : Options} {path name : String}

/-- The options with the list at another path. -/
def Options.withArrayPath (o : Options) (path : String) : Options :=
  { o with arrayPath := path }

/-- The path leads to a list, so that there is a breakdown of it. -/
def LeadsToList (response : Json) (o : Options) (path : String) : Prop :=
  (∃ items, response.resolve? path = some (.array items))
    ∧ ∃ b, breakdown response (o.withArrayPath path) = .ok b

lemma leadsToList_iff :
    LeadsToList response o path ↔ ∃ items, response.resolve? path = some (.array items) := by
  refine ⟨And.left, fun h => ⟨h, ?_⟩⟩
  obtain ⟨items, hitems⟩ := h
  exact ⟨_, breakdown_eq_ok_iff.2 ⟨items, hitems, rfl⟩⟩

/-! ## What a hint says -/

namespace ArrayNotFound

lemma breakdown_eq_error_iff {e : ArrayNotFound} : breakdown response o = .error e ↔
    (∀ items, response.resolve? o.arrayPath ≠ some (.array items))
      ∧ e = ⟨o.arrayPath, (response.resolve? o.arrayPath).map Kind.of, hintFor response⟩ := by
  rw [breakdown]
  split
  · next items hitems => simp [hitems]
  · next found hfound =>
    constructor
    · intro h
      exact ⟨hfound, (Except.error.inj h).symm⟩
    · rintro ⟨-, rfl⟩
      rfl

lemma hintFor_eq_responseIsArray_iff :
    hintFor response = some .responseIsArray ↔ ∃ items, response = .array items := by
  unfold hintFor
  split
  · simp
  · split <;> simp
  · next hother _ =>
    constructor
    · intro h
      cases h
    · rintro ⟨items, rfl⟩
      exact (hother items rfl).elim

/-- The fields that a hint names are the members that are lists. -/
lemma mem_of_hintFor {names : List String} (h : hintFor response = some (.arrayFields names))
    (hname : name ∈ names) : ∃ members, response = .object members
      ∧ ∃ items, (name, .array items) ∈ members := by
  unfold hintFor at h
  split at h
  · cases h
  · next members =>
    have hnames : (members.filter (·.2.isArray)).map Prod.fst = names := by
      split at h
      · cases h
      · simpa using h
    subst hnames
    obtain ⟨⟨key, v⟩, hmem, rfl⟩ := List.mem_map.1 hname
    obtain ⟨hmember, harray⟩ := List.mem_filter.1 hmem
    cases v with
    | array items => exact ⟨members, rfl, items, hmember⟩
    | _ => cases harray
  · cases h

end ArrayNotFound

open ArrayNotFound

/-! ## Keys as paths -/

/-- The empty path leads to where it starts. -/
lemma resolve?_empty (v : Json) : v.resolve? "" = some v := by
  have htokens : tokens "" = [] := by decide
  rw [Json.resolve?, htokens]
  rfl

/-- A key that is one token leads to its member. -/
lemma resolve?_of_isToken {members : Json.Members} (h : IsToken name.toList) :
    (Json.object members).resolve? name = members.lookup name := by
  rw [Json.resolve?_of_tokens (tokens_eq_singleton h)]
  rfl

/-- In an object with one member, a key that leads to a list is one token. -/
lemma isToken_of_resolve? {items : List Json}
    (h : (Json.object [(name, .array [])]).resolve? name = some (.array items)) :
    IsToken name.toList := by
  rw [Json.resolve?] at h
  cases htokens : tokens name with
  | nil =>
    rw [htokens] at h
    cases h
  | cons token rest =>
    rw [htokens] at h
    obtain ⟨v, hchild, -⟩ := Json.foldlM_child?_cons.1 h
    -- the member is found under the first token, so this is the key
    have htoken : token = name := by
      by_contra hne
      simp [Json.child?, Json.lookup_cons, hne] at hchild
    subst htoken
    exact isToken_of_mem_tokens (htokens ▸ List.mem_cons_self)

/-- A field that a hint names can be followed if its name is one token. -/
lemma leadsToList_of_hint {e : ArrayNotFound} {names : List String} (hkeys : response.DistinctKeys)
    (herror : breakdown response o = .error e) (hhint : e.hint = some (.arrayFields names))
    (hname : name ∈ names) (htoken : IsToken name.toList) : LeadsToList response o name := by
  obtain ⟨-, rfl⟩ := breakdown_eq_error_iff.1 herror
  obtain ⟨members, rfl, items, hmember⟩ := mem_of_hintFor hhint hname
  have hlookup : members.lookup name = some (.array items) :=
    Json.lookup_of_mem (hkeys members List.mem_cons_self) hmember
  exact leadsToList_iff.2 ⟨items, (resolve?_of_isToken htoken).trans hlookup⟩

/-- If a field can be followed wherever a hint names it, its name is one token: it is named where it
is the only one. -/
lemma isToken_of_followed (h : ∀ response o e names, response.DistinctKeys →
    breakdown response o = .error e → e.hint = some (.arrayFields names) → name ∈ names →
    LeadsToList response o name) : IsToken name.toList := by
  have hkeys : (Json.object [(name, .array [])]).DistinctKeys := by
    intro members hmembers
    obtain rfl : members = [(name, .array [])] := by
      simpa [Json.inside, Json.insideMembers, Json.insideItems] using hmembers
    exact List.nodup_singleton name
  -- the list is reached, or else hinted at and then reached
  have hreached :
      ∃ items, (Json.object [(name, .array [])]).resolve? name = some (.array items) := by
    by_contra hnone
    have herror := (breakdown_eq_error_iff (o := .ofArrayPath name)).2 ⟨not_exists.1 hnone, rfl⟩
    exact hnone (h _ _ _ [name] hkeys herror rfl List.mem_cons_self).1
  obtain ⟨items, hitems⟩ := hreached
  exact isToken_of_resolve? hitems

/-- **The empty path can be followed where the hint says so, and a field that a hint names can be
followed, in every response and from every failure, just if its name is one token of a path**. -/
theorem hints_followed_iff (name : String) :
    (∀ response o e, breakdown response o = .error e → e.hint = some .responseIsArray →
        LeadsToList response o "")
      ∧ ((∀ response o e names, response.DistinctKeys → breakdown response o = .error e →
          e.hint = some (.arrayFields names) → name ∈ names → LeadsToList response o name)
        ↔ IsToken name.toList) := by
  refine ⟨fun response o e herror hhint => ?_, isToken_of_followed, ?_⟩
  · obtain ⟨-, rfl⟩ := breakdown_eq_error_iff.1 herror
    obtain ⟨items, rfl⟩ := hintFor_eq_responseIsArray_iff.1 hhint
    exact leadsToList_iff.2 ⟨items, resolve?_empty _⟩
  · intro htoken response o e names hkeys herror hhint hname
    exact leadsToList_of_hint hkeys herror hhint hname htoken

/-! A page of results, and an order whose one list has a point in its key. -/

def resultsPage : Json :=
  .object [("meta", .object []), ("results", .array [.null]), ("tags", .array [])]

theorem hints_followed_results :
    resultsPage.DistinctKeys
      ∧ (∃ e, breakdown resultsPage (.ofArrayPath "items") = .error e
        ∧ e.hint = some (.arrayFields ["results", "tags"]))
      ∧ LeadsToList resultsPage (.ofArrayPath "items") "results" := by
  have hkeys : resultsPage.DistinctKeys := by decide +kernel
  have hnot : ∀ items, resultsPage.resolve? "items" ≠ some (.array items) := by
    have hnone : resultsPage.resolve? "items" = none := by decide +kernel
    simp [hnone]
  have herror := breakdown_eq_error_iff (o := .ofArrayPath "items").2 ⟨hnot, rfl⟩
  have htoken : IsToken "results".toList := tokens_eq_singleton_iff.1 (by decide +kernel)
  exact ⟨hkeys, ⟨_, herror, rfl⟩,
    (hints_followed_iff "results").2.2 htoken _ _ _ _ hkeys herror rfl List.mem_cons_self⟩

def dottedOrder : Json := .object [("order.lines", .array [.object []])]

/-- A hint names the very path that has failed. -/
theorem not_leadsToList_dottedOrder : dottedOrder.DistinctKeys
    ∧ breakdown dottedOrder (.ofArrayPath "order.lines")
      = .error ⟨"order.lines", none, some (.arrayFields ["order.lines"])⟩
    ∧ ¬ LeadsToList dottedOrder (.ofArrayPath "order.lines") "order.lines" := by
  have hnone : dottedOrder.resolve? "order.lines" = none := by decide +kernel
  have hnot : ∀ items, dottedOrder.resolve? "order.lines" ≠ some (.array items) := by
    simp [hnone]
  refine ⟨by decide +kernel, breakdown_eq_error_iff.2 ⟨hnot, ?_⟩, ?_⟩
  · have hpath : (Options.ofArrayPath "order.lines").arrayPath = "order.lines" := rfl
    rw [hpath, hnone]
    rfl
  · rw [leadsToList_iff]
    rintro ⟨items, hitems⟩
    exact hnot items hitems

end ApiSurvey.Grouping
