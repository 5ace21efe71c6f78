import ApiSurvey.Proofs.Schema.Component
import ApiSurvey.Proofs.Schema.Recorded

/-!
# Walks from another place

A walk looks at no path; it only makes longer paths of the one where it stands.  So it finds the
same wherever it begins, with the paths relative to the beginning; and since different paths stay
different when something is put in front of them, the tables are the same as well.  Only the empty
path is no such place: no point follows it.

Within one walk, two properties of a node stand at two places and share all the rest: the names that
are inherited, the references being expanded and the levels that are left.  If they refer to the
same component, the same is therefore told below both, provided that the two references are written
alike.  For references are told apart as they are written, and a walk that expands a component under
one spelling does not know it under another.
-/

namespace ApiSurvey.Schema

/-! ## Other paths -/

/-- The path with `q` in place of `p`, for a path that begins with `p`. -/
def relocate (p q path : String) : String :=
  ((Text.stripLead p.toList path.toList).map fun rest => q ++ String.ofList rest).getD path

lemma relocate_append (p q rest : String) : relocate p q (p ++ rest) = q ++ rest := by
  have hstrip : Text.stripLead p.toList (p ++ rest).toList = some rest.toList := by
    rw [Text.stripLead_eq_some_iff, String.toList_append]
  rw [relocate, hstrip, Option.map_some, Option.getD_some, String.ofList_toList]

lemma append_left_injective (p : String) : Function.Injective (p ++ ·) := by
  intro s t h
  have hlist := congrArg String.toList h
  simp only [String.toList_append] at hlist
  exact String.toList_injective (List.append_cancel_left hlist)

/-- The finding with another path. -/
def Finding.mapPath (f : String → String) : Finding → Finding
  | .required path => .required (f path)
  | .readOnly path => .readOnly (f path)
  | .exampleValue path value => .exampleValue (f path) value
  | .enumValues path values => .enumValues (f path) values
  | .truncated truncation => .truncated ⟨f truncation.path, truncation.reason⟩

namespace FieldTable

/-- The table with other paths: the same values and reasons, in the same order. -/
def mapPaths (f : String → String) (t : FieldTable) : FieldTable where
  examples := t.examples.map fun entry => (f entry.1, entry.2)
  enums := t.enums.map fun entry => (f entry.1, entry.2)
  required := t.required.map f
  readOnly := t.readOnly.map f
  truncated := t.truncated.map fun truncation => ⟨f truncation.path, truncation.reason⟩

lemma mapPaths_mapPaths (f g : String → String) (t : FieldTable) :
    (t.mapPaths f).mapPaths g = t.mapPaths fun path => g (f path) := by
  simp [mapPaths, Function.comp_def]

section

variable {f : String → String}

lemma appendNew_map (hf : Function.Injective f) (known : List String) (path : String) :
    appendNew (known.map f) (f path) = (appendNew known path).map f := by
  rw [appendNew, appendNew]
  by_cases h : path ∈ known
  · rw [if_pos h, if_pos (List.mem_map_of_mem h)]
  · have h' : f path ∉ known.map f := fun hmem => h ((List.mem_map_of_injective hf).1 hmem)
    rw [if_neg h, if_neg h', List.map_append, List.map_singleton]

lemma uniteAt_map (hf : Function.Injective f) (table : List (String × List Json)) (path : String)
    (values : List Json) :
    uniteAt (table.map fun entry => (f entry.1, entry.2)) (f path) values
      = (uniteAt table path values).map fun entry => (f entry.1, entry.2) := by
  induction table with
  | nil => rfl
  | cons entry table ih =>
    obtain ⟨p, known⟩ := entry
    by_cases hp : p = path
    · simp [uniteAt, hp]
    · have hfp : f p ≠ f path := fun h => hp (hf h)
      simp [uniteAt, hp, hfp, ih]

/-- Different paths that stay different are recorded alike. -/
lemma record_mapPaths (hf : Function.Injective f) (t : FieldTable) (x : Finding) :
    (t.mapPaths f).record (x.mapPath f) = (t.record x).mapPaths f := by
  cases x with
  | required path => simp only [record, mapPaths, Finding.mapPath, appendNew_map hf]
  | readOnly path => simp only [record, mapPaths, Finding.mapPath, appendNew_map hf]
  | truncated truncation => simp [record, mapPaths, Finding.mapPath]
  | enumValues path values =>
    by_cases hvalues : values.isEmpty = true
    · rw [Finding.mapPath, record, if_pos hvalues, record, if_pos hvalues]
    · rw [Finding.mapPath, record, if_neg hvalues, record, if_neg hvalues]
      simp only [mapPaths, uniteAt_map hf]
  | exampleValue path value =>
    have hpaths : (t.mapPaths f).examples.map Prod.fst = (t.examples.map Prod.fst).map f := by
      simp [mapPaths, Function.comp_def]
    rw [Finding.mapPath, record_exampleValue, record_exampleValue]
    by_cases h : path ∈ t.examples.map Prod.fst
    · have h' : f path ∈ (t.mapPaths f).examples.map Prod.fst := hpaths ▸ List.mem_map_of_mem h
      rw [if_pos h, if_pos h']
    · have h' : f path ∉ (t.mapPaths f).examples.map Prod.fst := by
        rwa [hpaths, List.mem_map_of_injective hf]
      rw [if_neg h, if_neg h']
      simp [mapPaths]

lemma recordAll_mapPaths (hf : Function.Injective f) (t : FieldTable) (xs : List Finding) :
    (t.mapPaths f).recordAll (xs.map (Finding.mapPath f)) = (t.recordAll xs).mapPaths f := by
  induction xs generalizing t with
  | nil => rfl
  | cons x xs ih =>
    have hstep := ih (t.record x)
    rw [← record_mapPaths hf] at hstep
    exact hstep

end

end FieldTable

/-! ## Findings relative to a place -/

/-- The same is found from every base path but the empty one, relative to it. -/
def Relative (found : String → List Finding) : Prop :=
  ∃ fs : List Finding, ∀ base, base ≠ "" → found base = fs.map (Finding.mapPath (base ++ ·))

namespace Relative

variable {found found' : String → List Finding}

lemma congr (h : Relative found') (heq : ∀ base, base ≠ "" → found base = found' base) :
    Relative found := by
  obtain ⟨fs, hfs⟩ := h
  exact ⟨fs, fun base hbase => (heq base hbase).trans (hfs base hbase)⟩

lemma nil : Relative fun _ => [] :=
  ⟨[], fun _ _ => rfl⟩

lemma append (h : Relative found) (h' : Relative found') :
    Relative fun base => found base ++ found' base := by
  obtain ⟨fs, hfs⟩ := h
  obtain ⟨fs', hfs'⟩ := h'
  refine ⟨fs ++ fs', fun base hbase => ?_⟩
  simp only [hfs base hbase, hfs' base hbase, List.map_append]

lemma flatMap {α : Type} {items : List α} {found : α → String → List Finding}
    (h : ∀ a ∈ items, Relative (found a)) : Relative fun base => items.flatMap (found · base) := by
  induction items with
  | nil => exact nil
  | cons a items ih =>
    have hrest := ih fun b hb => h b (List.mem_cons_of_mem a hb)
    exact (h a List.mem_cons_self).append hrest

lemma truncated (suffix : String) (reason : Reason) :
    Relative fun base => [.truncated ⟨base ++ suffix, reason⟩] :=
  ⟨[.truncated ⟨suffix, reason⟩], fun _ _ => rfl⟩

lemma valueFindings (suffix : String) (n : Node) :
    Relative fun base => Schema.valueFindings (base ++ suffix) n := by
  refine ⟨Schema.valueFindings suffix n, fun base _ => ?_⟩
  simp only [Schema.valueFindings]
  cases n.example? <;> cases n.enum? <;> rfl

lemma propertyFindings (d : Document) (names : List String) (suffix key : String) (schema : Json) :
    Relative fun base => Schema.propertyFindings d names (base ++ suffix) key schema := by
  refine append ?_ ?_
  · refine ⟨if names.contains key then [.required suffix] else [], fun base _ => ?_⟩
    split <;> rfl
  · cases Node.of? (d.resolve schemasSection schema) with
    | none => exact nil
    | some n =>
      refine (valueFindings suffix n).append ?_
      refine ⟨if n.isReadOnly then [.readOnly suffix] else [], fun base _ => ?_⟩
      split <;> rfl

end Relative

/-- The visit of the same schema at another path. -/
def Visit.standing (v : Visit) (path : String) : Visit :=
  { v with path := path }

/-- What an exit puts behind a path that is not empty. -/
def Exit.extend (suffix : String) : Exit → String
  | property key => suffix ++ "." ++ key
  | items => suffix ++ String.ofList FieldPath.expansionMark
  | allOf | oneOf | anyOf => suffix

lemma Exit.path_append {base : String} (hbase : base ≠ "") (suffix : String) (exit : Exit) :
    exit.path (base ++ suffix) = base ++ exit.extend suffix := by
  cases exit with
  | property key =>
    have hne : (base ++ suffix).isEmpty = false := by
      simp [hbase]
    simp only [Exit.path, FieldPath.join, hne, Exit.extend, String.append_assoc]
    rfl
  | items => simp only [Exit.path, FieldPath.elements, Exit.extend, String.append_assoc]
  | _ => rfl

section

variable {d : Document}

lemma Relative.found (v : Visit) (n : Node) (suffix : String) (out : Exit × Json) :
    Relative fun base => out.1.found d (v.standing (base ++ suffix)) n out.2 := by
  obtain ⟨exit, next⟩ := out
  cases exit with
  | property key =>
    refine (Relative.propertyFindings d (v.inherited ++ n.required)
      (Exit.extend suffix (.property key)) key next).congr fun base hbase => ?_
    rw [← Exit.path_append hbase]
    rfl
  | items =>
    refine (Relative.valueFindings (Exit.extend suffix .items) n).congr fun base hbase => ?_
    rw [← Exit.path_append hbase]
    rfl
  | _ => exact .nil

/-- **A walk finds the same from every place**, relative to it. -/
theorem Relative.findings (limit levels : Nat) (v : Visit) (suffix : String) :
    Relative fun base => Schema.findings d limit levels (v.standing (base ++ suffix)) := by
  induction levels generalizing v suffix with
  | zero => exact .truncated suffix (.depth limit)
  | succ levels ih =>
    rcases Visit.cut_or_follows_or_opens d v with
      ⟨token, href, hactive⟩ | ⟨token, target, hfollows⟩ | hopens
    · refine (Relative.truncated suffix (.cycle token)).congr fun base _ => ?_
      exact findings_of_cut (v := v.standing (base ++ suffix)) href hactive
    · refine (ih (v.hop token target) suffix).congr fun base _ => ?_
      exact findings_of_follows (v := v.standing (base ++ suffix)) hfollows
    · cases hnode : Node.of? v.schema with
      | none =>
        refine Relative.nil.congr fun base _ => ?_
        exact findings_of_no_node (v := v.standing (base ++ suffix)) hopens hnode
      | some n =>
        -- each exit makes the suffix longer, whatever the base path
        have hways : ∀ out ∈ n.exits, Relative fun base =>
            out.1.found d (v.standing (base ++ suffix)) n out.2
              ++ Schema.findings d limit levels
                ((v.wayOut d n out).next.standing (base ++ out.1.extend suffix)) := fun out _ =>
          (Relative.found v n suffix out).append (ih _ _)
        refine (Relative.flatMap hways).congr fun base hbase => ?_
        rw [findings_of_opens (v := v.standing (base ++ suffix)) hopens hnode]
        refine List.flatMap_congr fun out _ => ?_
        rw [← Exit.path_append hbase]
        rfl

end

/-- What is found relative to a place makes one table, with the place in front of its paths. -/
lemma Relative.exists_table {found : String → List Finding} (h : Relative found) :
    ∃ relative : FieldTable, ∀ base, base ≠ "" →
      FieldTable.empty.recordAll (found base) = relative.mapPaths (base ++ ·) := by
  obtain ⟨fs, hfs⟩ := h
  refine ⟨FieldTable.empty.recordAll fs, fun base hbase => ?_⟩
  rw [hfs base hbase, ← FieldTable.recordAll_mapPaths (append_left_injective base)]
  rfl

lemma mapPaths_relocate (relative : FieldTable) (p q : String) :
    (relative.mapPaths (p ++ ·)).mapPaths (relocate p q) = relative.mapPaths (q ++ ·) := by
  simp only [FieldTable.mapPaths_mapPaths, relocate_append]

/-! ## Siblings -/

/-- What a walk tells of a property from the node on that has it, apart from whether it is required:
what is noted of the property itself, and all that is found from its schema on. -/
def Visit.subtable (d : Document) (limit levels : Nat) (v : Visit) (n : Node) (key : String)
    (schema : Json) : FieldTable :=
  FieldTable.empty.recordAll <|
    propertyFindings d [] (FieldPath.join v.path key) key schema
      ++ findings d limit levels (v.wayOut d n (.property key, schema)).next

/-- Wherever a walk comes to a node with two properties that refer to components by `s` and by `t`,
it tells the same of the two. -/
def Document.SiblingsAlike (d : Document) (s t : String) : Prop :=
  ∀ (o : Origin d) base k v n key key' schema schema' limit levels, Reaches d (.start o base) k v →
    Node.of? v.schema = some n →
    (.property key, schema) ∈ n.exits → reference? schemasSection schema = some s →
    (.property key', schema') ∈ n.exits → reference? schemasSection schema' = some t →
    FieldPath.join v.path key ≠ "" → FieldPath.join v.path key' ≠ "" →
    v.subtable d limit levels n key' schema'
      = (v.subtable d limit levels n key schema).mapPaths
        (relocate (FieldPath.join v.path key) (FieldPath.join v.path key'))

section

variable {d : Document} {token : String} {target : Json}

lemma resolve_of_lookup {schema : Json} (href : reference? schemasSection schema = some token)
    (hlookup : d.lookup? schemasSection token = some target) :
    d.resolve schemasSection schema = target := by
  rw [Document.resolve, href, Option.bind_some, hlookup, Option.getD_some]

/-- Nothing but the reference counts of a schema with one that leads to a component. -/
lemma findings_congr_reference (limit levels : Nat) {v : Visit} {schema' : Json}
    (href : reference? schemasSection v.schema = some token)
    (href' : reference? schemasSection schema' = some token)
    (hlookup : d.lookup? schemasSection token = some target) (hsite : v.site = .elsewhere) :
    findings d limit levels { v with schema := schema' } = findings d limit levels v := by
  cases levels with
  | zero => rfl
  | succ levels =>
    by_cases hactive : token ∈ v.active
    · rw [findings_of_cut href hactive,
        findings_of_cut (v := { v with schema := schema' }) href' hactive]
    · have hfollows : d.Follows v.active v.site v.schema token target :=
        ⟨href, hactive, hlookup, by rw [hsite]; exact nofun⟩
      have hfollows' : d.Follows v.active v.site schema' token target :=
        ⟨href', hactive, hlookup, hfollows.away⟩
      rw [findings_of_follows hfollows,
        findings_of_follows (v := { v with schema := schema' }) hfollows']
      rfl

/-- **Properties that refer to a component by the same name have the same sub-tables.** -/
theorem siblingsAlike_self (hlookup : d.lookup? schemasSection token = some target) :
    d.SiblingsAlike token token := by
  intro o base k v n key key' schema schema' limit levels _ _ _ href _ href' hkey hkey'
  -- from the path of a property on, everything is the same for both, and relative to that path
  let below (path : String) : Visit :=
    ⟨schema, .elsewhere, path, v.inherited ++ n.required, v.active⟩
  have hrelative : Relative fun path =>
      propertyFindings d [] (path ++ "") key schema
        ++ findings d limit levels ((below "").standing (path ++ "")) :=
    (Relative.propertyFindings d [] "" key schema).append
      (Relative.findings limit levels (below "") "")
  obtain ⟨relative, htable⟩ := hrelative.exists_table
  simp only [String.append_empty] at htable
  have hfirst : v.subtable d limit levels n key schema
      = relative.mapPaths (FieldPath.join v.path key ++ ·) := htable _ hkey
  have hsecond : v.subtable d limit levels n key' schema'
      = relative.mapPaths (FieldPath.join v.path key' ++ ·) := by
    have hnoted : propertyFindings d [] (FieldPath.join v.path key') key' schema'
        = propertyFindings d [] (FieldPath.join v.path key') key schema := by
      rw [propertyFindings, propertyFindings, resolve_of_lookup href hlookup,
        resolve_of_lookup href' hlookup]
      rfl
    have hfound := findings_congr_reference limit levels
      (v := below (FieldPath.join v.path key')) href href' hlookup rfl
    rw [← htable _ hkey', Visit.subtable, hnoted]
    exact congrArg (fun fs => FieldTable.empty.recordAll (_ ++ fs)) hfound
  rw [hfirst, hsecond, mapPaths_relocate]

end

/-! ## A component under two spellings -/

/-- A reference with the name as it is written. -/
def referenceTo (token : String) : Json :=
  .object [("$ref", .string (String.ofList (sectionPointer schemasSection ++ token.toList)))]

/-- A component that goes on with a reference to itself. -/
def chainSchema (token : String) : Json :=
  .object [("properties", .object [("next", referenceTo token)])]

/-- A document with this component alone. -/
def chainDocument (token : String) : Document :=
  .ofSchemas [(componentName token, chainSchema token)]

/-- A node with a reference under each of two names. -/
def forkNode (s t : String) : Node :=
  ⟨[("properties", .object [("left", referenceTo s), ("right", referenceTo t)])]⟩

/-- The first visit of a walk from it. -/
def forkStart (s t : String) : Visit :=
  .start (.value (.object (forkNode s t).members) : Origin (chainDocument s)) ""

section

variable {s t : String}

lemma reference?_referenceTo (hne : s ≠ "") (hslash : '/' ∉ s.toList) :
    reference? schemasSection (referenceTo s) = some s := by
  have hstrip : Text.stripLead (sectionPointer schemasSection)
      (sectionPointer schemasSection ++ s.toList) = some s.toList :=
    Text.stripLead_eq_some_iff.2 rfl
  simp [reference?, referenceTo, Json.get?, Json.string?, hstrip, hne, hslash]

lemma lookup?_chainDocument (h : componentName s = componentName t) :
    (chainDocument s).lookup? schemasSection t = some (chainSchema s) := by
  rw [Document.lookup?, ← h, chainDocument, Document.component?_ofSchemas, List.lookup_cons_self]

/-- A property that refers to the component has nothing to be noted. -/
lemma propertyFindings_referenceTo {token : String}
    (href : reference? schemasSection (referenceTo token) = some token)
    (hname : componentName s = componentName token) (path key : String) :
    propertyFindings (chainDocument s) [] path key (referenceTo token) = [] := by
  rw [propertyFindings, resolve_of_lookup href (lookup?_chainDocument hname)]
  rfl

/-- The component has nothing to tell but what its reference leads to. -/
lemma findings_chainSchema (href : reference? schemasSection (referenceTo s) = some s)
    (limit levels : Nat) (site : Site) (path : String) (active : List String) :
    findings (chainDocument s) limit (levels + 1) ⟨chainSchema s, site, path, [], active⟩
      = findings (chainDocument s) limit levels
        ⟨referenceTo s, .elsewhere, FieldPath.join path "next", [], active⟩ := by
  have hopens : (chainDocument s).Opens active site (chainSchema s) := by
    rintro token ⟨⟩
  have hnoted := propertyFindings_referenceTo href rfl (FieldPath.join path "next") "next"
  rw [findings_of_opens hopens rfl]
  exact (List.append_nil _).trans (congrArg (· ++ _) hnoted)

lemma findings_hop_chain {token : String} {active : List String}
    (href : reference? schemasSection (referenceTo token) = some token)
    (hname : componentName s = componentName token) (hfresh : token ∉ active) (limit levels : Nat)
    (path : String) :
    findings (chainDocument s) limit (levels + 1) ⟨referenceTo token, .elsewhere, path, [], active⟩
      = findings (chainDocument s) limit levels
        ⟨chainSchema s, .component (componentName token), path, [], token :: active⟩ :=
  findings_of_follows (v := ⟨referenceTo token, .elsewhere, path, [], active⟩)
    ⟨href, hfresh, lookup?_chainDocument hname, nofun⟩

lemma findings_cut_chain {active : List String}
    (href : reference? schemasSection (referenceTo s) = some s) (hactive : s ∈ active)
    (limit levels : Nat) (path : String) :
    findings (chainDocument s) limit (levels + 1) ⟨referenceTo s, .elsewhere, path, [], active⟩
      = [.truncated ⟨path, .cycle s⟩] :=
  findings_of_cut (v := ⟨referenceTo s, .elsewhere, path, [], active⟩) href hactive

/-- Below a property of the fork there is what its reference leads to, and nothing else. -/
lemma subtable_forkStart {token : String}
    (href : reference? schemasSection (referenceTo token) = some token)
    (hname : componentName s = componentName token) (limit levels : Nat) (key : String) :
    (forkStart s t).subtable (chainDocument s) limit levels (forkNode s t) key (referenceTo token)
      = FieldTable.empty.recordAll
        (findings (chainDocument s) limit levels ⟨referenceTo token, .elsewhere, key, [], []⟩) := by
  rw [Visit.subtable, propertyFindings_referenceTo href hname, List.nil_append]
  rfl

/-- **A component under two spellings is expanded once more below one of the two properties.** -/
theorem not_siblingsAlike (hs : reference? schemasSection (referenceTo s) = some s)
    (ht : reference? schemasSection (referenceTo t) = some t)
    (hname : componentName s = componentName t) (hne : s ≠ t) :
    ¬ (chainDocument s).SiblingsAlike s t := by
  intro halike
  have hsame := halike (.value (.object (forkNode s t).members)) "" 0 (forkStart s t)
    (forkNode s t) "left" "right" (referenceTo s) (referenceTo t) 8 8 .refl rfl
    List.mem_cons_self hs (List.mem_cons_of_mem _ List.mem_cons_self) ht
    (show "left" ≠ "" by decide) (show "right" ≠ "" by decide)
  have hleft : findings (chainDocument s) 8 8 ⟨referenceTo s, .elsewhere, "left", [], []⟩
      = [.truncated ⟨"left.next", .cycle s⟩] := by
    rw [findings_hop_chain hs rfl List.not_mem_nil, findings_chainSchema hs,
      findings_cut_chain hs List.mem_cons_self]
    rfl
  have hfresh : s ∉ [t] := fun hmem => hne (List.mem_singleton.1 hmem)
  have hright : findings (chainDocument s) 8 8 ⟨referenceTo t, .elsewhere, "right", [], []⟩
      = [.truncated ⟨"right.next.next", .cycle s⟩] := by
    rw [findings_hop_chain ht hname List.not_mem_nil, findings_chainSchema hs,
      findings_hop_chain hs rfl hfresh, findings_chainSchema hs,
      findings_cut_chain hs List.mem_cons_self]
    rfl
  have hjoin (key : String) : FieldPath.join (forkStart s t).path key = key := rfl
  have hone (path : String) : FieldTable.empty.recordAll [.truncated ⟨path, .cycle s⟩]
      = ⟨[], [], [], [], [⟨path, .cycle s⟩]⟩ := rfl
  rw [subtable_forkStart hs rfl, subtable_forkStart ht hname, hleft, hright, hjoin, hjoin, hone,
    hone] at hsame
  have hpaths := congrArg (fun table => table.truncated.map Truncation.path) hsame
  simp only [FieldTable.mapPaths, List.map_cons, List.map_nil] at hpaths
  exact absurd hpaths (by decide)

end

/-- **A walk tells the same from every place**: its table at one path that is not empty is its table
at another, with the one path for the other in front of every path.  Properties of a node that refer
to the same component have the same sub-table, in every document, exactly if they write its name
alike. -/
theorem walk_relocated (d : Document) (o : Origin d) (maxDepth : Nat) :
    (∃ relative : FieldTable, ∀ base, base ≠ "" →
        FieldTable.empty.walk d maxDepth o base = relative.mapPaths (base ++ ·))
      ∧ (∀ p q, p ≠ "" → q ≠ "" → FieldTable.empty.walk d maxDepth o q
        = (FieldTable.empty.walk d maxDepth o p).mapPaths (relocate p q))
      ∧ ∀ s t, s ≠ "" → '/' ∉ s.toList → t ≠ "" → '/' ∉ t.toList →
        componentName s = componentName t →
        ((∀ d : Document, (∃ target, d.lookup? schemasSection s = some target) →
          d.SiblingsAlike s t) ↔ s = t) := by
  have hrelative : Relative fun base => walkFindings d maxDepth o (base ++ "") :=
    Relative.findings maxDepth (maxDepth + 1) (.start o "") ""
  obtain ⟨relative, htable⟩ := hrelative.exists_table
  simp only [String.append_empty] at htable
  refine ⟨⟨relative, htable⟩, fun p q hp hq => ?_, fun s t hs hs' ht ht' hname => ?_⟩
  · have hwalk (base : String) (hbase : base ≠ "") :
        FieldTable.empty.walk d maxDepth o base = relative.mapPaths (base ++ ·) :=
      htable base hbase
    rw [hwalk p hp, hwalk q hq, mapPaths_relocate]
  · have href := reference?_referenceTo hs hs'
    have href' := reference?_referenceTo ht ht'
    constructor
    · intro halike
      by_contra hne
      exact not_siblingsAlike href href' hname hne
        (halike (chainDocument s) ⟨_, lookup?_chainDocument rfl⟩)
    · rintro rfl d ⟨target, hlookup⟩
      exact siblingsAlike_self hlookup

/-! A spice that goes with itself, in a menu that does not always escape the tilde in its name. -/

def spices : Document := .ofSchemas [("salt~pepper", .object
  [("example", .string "coarse"), ("properties", .object [("with", referenceTo "salt~0pepper")])])]

def menu : Json := .object
  [("properties", .object
    [("starter", referenceTo "salt~0pepper"), ("main", referenceTo "salt~pepper")])]

theorem walk_relocated_spices :
    "tray" ≠ "" ∧ "table[]" ≠ ""
      ∧ (FieldTable.empty.walk spices 8 (.value menu) "tray").examples.map Prod.fst
        = ["tray.starter", "tray.starter.with", "tray.main", "tray.main.with",
          "tray.main.with.with"]
      ∧ FieldTable.empty.walk spices 8 (.value menu) "table[]"
        = (FieldTable.empty.walk spices 8 (.value menu) "tray").mapPaths (relocate "tray" "table[]")
      ∧ componentName "salt~0pepper" = componentName "salt~pepper"
      ∧ ¬ ∀ d : Document, (∃ target, d.lookup? schemasSection "salt~0pepper" = some target) →
        d.SiblingsAlike "salt~0pepper" "salt~pepper" := by
  obtain ⟨-, hrelocated, hsiblings⟩ := walk_relocated spices (.value menu) 8
  have hname : componentName "salt~0pepper" = componentName "salt~pepper" := by decide +kernel
  have hspellings := hsiblings "salt~0pepper" "salt~pepper" (by decide) (by decide) (by decide)
    (by decide) hname
  refine ⟨by decide, by decide, by decide +kernel,
    hrelocated "tray" "table[]" (by decide) (by decide), hname, fun halike => ?_⟩
  exact absurd (hspellings.1 halike) (by decide)

/-- The two properties refer to the same spice, and below one of them it is expanded twice. -/
theorem truncated_bodyTable_menu :
    componentName "salt~0pepper" = componentName "salt~pepper"
      ∧ (bodyTable spices defaultMaxDepth (.value menu)).truncated
        = [⟨"starter.with", .cycle "salt~0pepper"⟩,
          ⟨"main.with.with", .cycle "salt~0pepper"⟩] :=
  ⟨by decide +kernel, by decide +kernel⟩

end ApiSurvey.Schema
