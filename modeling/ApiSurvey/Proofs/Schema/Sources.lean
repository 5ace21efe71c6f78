import ApiSurvey.Proofs.Json.DistinctKeys
import ApiSurvey.Proofs.Schema.Bound

/-!
# Where the values of a table are written

A walk stands at the schema that it begins with, at components, and at the schemas below these, and
nowhere else.  What it shows of a field it has read off a node at one of these places, and a table
keeps what it is given: an example as it is, enumerated values as far as none is there that equals
them.  So every value of a table, after however many walks, is written as an example or among the
enumerated values of a node in one of the schemas walked or in a component.
-/

namespace ApiSurvey.Schema

/-- The schemas that a walk from some roots may stand at: the roots, the components of the document,
and the schemas below these, at any depth. -/
inductive Document.Holds (d : Document) (roots : List Json) : Json → Prop
  | root {schema : Json} (h : schema ∈ roots) : Holds d roots schema
  | component {name : String} {schema : Json}
      (h : d.component? schemasSection name = some schema) : Holds d roots schema
  | under {schema next : Json} {node : Node} {exit : Exit} (h : Holds d roots schema)
      (hnode : Node.of? schema = some node) (hexit : (exit, next) ∈ node.exits) :
      Holds d roots next

/-- The node stands in one of the roots, or in a component. -/
def Document.HoldsNode (d : Document) (roots : List Json) (node : Node) : Prop :=
  d.Holds roots (.object node.members)

section

variable {d : Document} {roots : List Json} {schema : Json}

namespace Document.Holds

lemma node {node : Node} (h : d.Holds roots schema) (hnode : Node.of? schema = some node) :
    d.HoldsNode roots node := by
  obtain rfl := Node.of?_eq_some_iff.1 hnode
  exact h

lemma resolve (h : d.Holds roots schema) : d.Holds roots (d.resolve schemasSection schema) := by
  rw [Document.resolve]
  cases htarget : (reference? schemasSection schema).bind (d.lookup? schemasSection) with
  | none => exact h
  | some target =>
    obtain ⟨token, -, hlookup⟩ := Option.bind_eq_some_iff.1 htarget
    exact .component hlookup

lemma of_reaches {o : Origin d} {path : String} {n : Nat} {u : Visit} (hroot : o.schema ∈ roots)
    (h : Reaches d (.start o path) n u) : d.Holds roots u.schema := by
  induction h using Reaches.step_induction_on with
  | refl => exact .root hroot
  | hop _ hfollows _ => exact .component hfollows.lookup
  | wayOut _ _ hnode hout ih => exact .under ih hnode hout

/-- Where no root and no component has an object with a key twice, no schema in them has. -/
lemma distinctKeys (h : d.Holds roots schema) (hdocument : d.root.DistinctKeys)
    (hroots : ∀ root ∈ roots, root.DistinctKeys) : schema.DistinctKeys := by
  induction h with
  | root h => exact hroots _ h
  | component h => exact hdocument.of_inside (mem_inside_of_component? h)
  | under _ hnode hexit ih =>
    exact ih.of_inside (mem_cons_inside_of_exits List.mem_cons_self hnode hexit)

end Document.Holds

/-! ## What is found -/

lemma Node.get?_of_example? {n : Node} {value : Json} (h : n.example? = some value) :
    n.get? "example" = some value ∨ ∃ rest, n.get? "examples" = some (.array (value :: rest)) := by
  rcases Option.or_eq_some_iff.1 h with h | ⟨-, h⟩
  · exact Or.inl h
  · obtain ⟨items, hitems, hhead⟩ := Option.bind_eq_some_iff.1 h
    obtain ⟨rest, rfl⟩ := List.head?_eq_some_iff.1 hhead
    exact Or.inr ⟨rest, Node.list?_eq_some_iff.1 hitems⟩

/-- The values that a finding shows are written at a node in one of the roots or in a component. -/
def Finding.WrittenIn (d : Document) (roots : List Json) : Finding → Prop
  | .exampleValue _ value => ∃ node, d.HoldsNode roots node ∧ node.example? = some value
  | .enumValues _ values => ∃ node, d.HoldsNode roots node ∧ node.enum? = some values
  | .required _ | .readOnly _ | .truncated _ => True

namespace Finding.WrittenIn

lemma of_valueFindings {node : Node} {path : String} {f : Finding}
    (hnode : d.HoldsNode roots node) (hf : f ∈ valueFindings path node) :
    f.WrittenIn d roots := by
  rcases List.mem_append.1 hf with hf | hf
  · obtain ⟨value, hvalue, rfl⟩ := Option.map_eq_some_iff.1 (Option.mem_toList.1 hf)
    exact ⟨node, hnode, hvalue⟩
  · obtain ⟨values, hvalues, rfl⟩ := Option.map_eq_some_iff.1 (Option.mem_toList.1 hf)
    exact ⟨node, hnode, hvalues⟩

/-- On the way out of a node the values of the node itself are found, or those of the schema of a
property, looked up one reference further. -/
lemma of_exit_found {exit : Exit} {v : Visit} {node : Node} {next : Json} {f : Finding}
    (hnode : d.HoldsNode roots node) (hnext : d.Holds roots next)
    (hf : f ∈ exit.found d v node next) : f.WrittenIn d roots := by
  cases exit with
  | property key =>
    rcases List.mem_append.1 hf with hf | hf
    · split at hf
      · obtain rfl := List.mem_singleton.1 hf
        trivial
      · cases hf
    · split at hf
      · next n hn =>
        rcases List.mem_append.1 hf with hf | hf
        · exact of_valueFindings (hnext.resolve.node hn) hf
        · split at hf
          · obtain rfl := List.mem_singleton.1 hf
            trivial
          · cases hf
      · cases hf
  | items => exact of_valueFindings hnode hf
  | allOf | oneOf | anyOf => cases hf

/-- What is found at a visit is written at the schema there, or at one that is looked up there. -/
lemma of_found {v : Visit} {f : Finding} (h : d.Holds roots v.schema) (hf : f ∈ v.found d) :
    f.WrittenIn d roots := by
  rcases Visit.cut_or_follows_or_opens d v with
    ⟨token, href, hactive⟩ | ⟨token, target, hfollows⟩ | hopens
  · rw [Visit.found, Visit.outlook_of_cut href hactive] at hf
    obtain rfl := List.mem_singleton.1 hf
    trivial
  · rw [Visit.found, Visit.outlook_of_follows hfollows] at hf
    cases hf
  · rw [Visit.found, Visit.outlook_of_opens hopens] at hf
    obtain ⟨way, hway, hf⟩ := List.mem_flatMap.1 hf
    obtain ⟨node, hnode, ⟨exit, next⟩, hout, rfl⟩ := Visit.mem_throughFacets.1 hway
    exact of_exit_found (h.node hnode) (.under h hnode hout) hf

/-- **What a walk finds is written in the schema that it begins with, or in a component.** -/
lemma of_walkFindings {maxDepth : Nat} {o : Origin d} {path : String} {f : Finding}
    (hroot : o.schema ∈ roots) (hf : f ∈ walkFindings d maxDepth o path) :
    f.WrittenIn d roots := by
  rcases mem_findings_iff.1 hf with ⟨n, u, -, hreaches, hf⟩ | ⟨u, -, rfl⟩
  · exact of_found (.of_reaches hroot hreaches) hf
  · trivial

end Finding.WrittenIn

end

/-! ## What is recorded -/

namespace FieldTable

/-- A table of what is written in some roots or in the components of a document: no path is listed
twice as required or as read-only, the values at a path are some, no two of them equal as data, and
all values are written at a node. -/
structure WrittenIn (d : Document) (roots : List Json) (t : FieldTable) : Prop where
  required : t.required.Nodup
  readOnly : t.readOnly.Nodup
  enums_ne_nil : ∀ path values, (path, values) ∈ t.enums → values ≠ []
  enums_apart : ∀ path values, (path, values) ∈ t.enums →
    values.Pairwise fun v w => v.same w = false
  enums_written : ∀ path values, (path, values) ∈ t.enums → ∀ v ∈ values,
    ∃ node, d.HoldsNode roots node ∧ ∃ listed, node.get? "enum" = some (.array listed) ∧ v ∈ listed
  examples_written : ∀ path value, (path, value) ∈ t.examples →
    ∃ node, d.HoldsNode roots node ∧ (node.get? "example" = some value
      ∨ ∃ rest, node.get? "examples" = some (.array (value :: rest)))

variable {d : Document} {roots : List Json} {t : FieldTable}

lemma writtenIn_empty (d : Document) (roots : List Json) : empty.WrittenIn d roots :=
  ⟨List.nodup_nil, List.nodup_nil, nofun, nofun, nofun, nofun⟩

namespace WrittenIn

/-- **One more finding keeps a table in this form.** -/
lemma record (h : t.WrittenIn d roots) {f : Finding} (hf : f.WrittenIn d roots) :
    (t.record f).WrittenIn d roots := by
  cases f with
  | required path => exact { h with required := nodup_appendNew h.required path }
  | readOnly path => exact { h with readOnly := nodup_appendNew h.readOnly path }
  | truncated truncation => exact { h with }
  | exampleValue path value =>
    rw [record_exampleValue]
    split
    · exact h
    · refine { h with examples_written := fun p v hv => ?_ }
      rcases List.mem_append.1 hv with hv | hv
      · exact h.examples_written p v hv
      · obtain ⟨rfl, rfl⟩ := Prod.mk.inj (List.mem_singleton.1 hv)
        obtain ⟨node, hnode, hexample⟩ := hf
        exact ⟨node, hnode, Node.get?_of_example? hexample⟩
  | enumValues path values =>
    simp only [FieldTable.record, List.isEmpty_iff]
    split
    · exact h
    · next hvalues =>
      obtain ⟨node, hnode, henum⟩ := hf
      refine { h with enums_ne_nil := ?_, enums_apart := ?_, enums_written := ?_ }
      · intro p united hunited
        rcases mem_uniteAt hunited with hold | ⟨known, -, rfl⟩
        · exact h.enums_ne_nil p united hold
        · exact unite_ne_nil hvalues known
      · intro p united hunited
        rcases mem_uniteAt hunited with hold | ⟨known, hknown | rfl, rfl⟩
        · exact h.enums_apart p united hold
        · exact pairwise_unite (h.enums_apart path known hknown) values
        · exact pairwise_unite List.Pairwise.nil values
      · intro p united hunited v hv
        rcases mem_uniteAt hunited with hold | ⟨known, hknown, rfl⟩
        · exact h.enums_written p united hold v hv
        · -- a value of the united ones was known, or is one of the values of the node
          rcases mem_of_mem_unite hv with hv | hv
          · rcases hknown with hknown | rfl
            · exact h.enums_written path known hknown v hv
            · cases hv
          · exact ⟨node, hnode, values, Node.list?_eq_some_iff.1 henum, hv⟩

lemma recordAll (h : t.WrittenIn d roots) {fs : List Finding}
    (hfs : ∀ f ∈ fs, f.WrittenIn d roots) : (t.recordAll fs).WrittenIn d roots := by
  induction fs generalizing t with
  | nil => exact h
  | cons f fs ih =>
    exact ih (h.record (hfs f List.mem_cons_self)) fun g hg => hfs g (List.mem_cons_of_mem f hg)

/-- **One more walk keeps a table in this form**, if its schema is one of the roots. -/
lemma walk (h : t.WrittenIn d roots) (maxDepth : Nat) {o : Origin d} (hroot : o.schema ∈ roots)
    (path : String) : (t.walk d maxDepth o path).WrittenIn d roots :=
  h.recordAll fun _ hf => .of_walkFindings hroot hf

lemma foldl_walk (h : t.WrittenIn d roots) (maxDepth : Nat) {steps : List (Origin d × String)}
    (hroots : ∀ step ∈ steps, step.1.schema ∈ roots) :
    (steps.foldl (fun t step => t.walk d maxDepth step.1 step.2) t).WrittenIn d roots := by
  induction steps generalizing t with
  | nil => exact h
  | cons step steps ih =>
    exact ih (h.walk maxDepth (hroots step List.mem_cons_self) step.2)
      fun s hs => hroots s (List.mem_cons_of_mem step hs)

/-- Where no object has a key twice, the values at a path are told apart from both sides. -/
lemma pairwise_symm (h : t.WrittenIn d roots) (hdocument : d.root.DistinctKeys)
    (hroots : ∀ root ∈ roots, root.DistinctKeys) {path : String} {values : List Json}
    (hvalues : (path, values) ∈ t.enums) :
    values.Pairwise fun v w => w.same v = false := by
  have hdistinct : ∀ v ∈ values, v.DistinctKeys := by
    intro v hv
    obtain ⟨node, hnode, listed, hlisted, hv⟩ := h.enums_written path values hvalues v hv
    have hinside : v ∈ (Json.object node.members).inside :=
      Json.mem_inside_trans (Json.mem_inside_array hv) (Node.mem_inside_of_get? hlisted)
    exact (hnode.distinctKeys hdocument hroots).of_inside hinside
  refine (h.enums_apart path values hvalues).imp_of_mem fun hv hw hvw => ?_
  refine Bool.eq_false_iff.2 fun hwv => ?_
  rw [Json.same_symm (hdistinct _ hw) (hdistinct _ hv) hwv] at hvw
  cases hvw

end WrittenIn

/-- **Every value of the table of some walks is written in one of the schemas walked or in a
component**, no path is listed twice, and the values enumerated at a path are some, no two of them
equal as data. -/
theorem writtenIn_walks (d : Document) (maxDepth : Nat) (steps : List (Origin d × String)) :
    (steps.foldl (fun t step => t.walk d maxDepth step.1 step.2) empty).WrittenIn d
        (steps.map fun step => step.1.schema)
      ∧ (d.root.DistinctKeys → (∀ step ∈ steps, step.1.schema.DistinctKeys) → ∀ path values,
        (path, values) ∈ (steps.foldl (fun t step => t.walk d maxDepth step.1 step.2) empty).enums →
          values.Pairwise fun v w => w.same v = false) := by
  have hroots : ∀ step ∈ steps, step.1.schema ∈ steps.map fun step => step.1.schema :=
    fun _ hstep => List.mem_map.2 ⟨_, hstep, rfl⟩
  have hwritten := (writtenIn_empty d _).foldl_walk maxDepth hroots
  refine ⟨hwritten, fun hdocument hsteps path values hvalues => ?_⟩
  refine hwritten.pairwise_symm hdocument (fun root hroot => ?_) hvalues
  obtain ⟨step, hstep, rfl⟩ := List.mem_map.1 hroot
  exact hsteps step hstep

/-! Sizes of shirts, by name in a component and by measure in a second schema, where one of them is
written twice with its members in another order. -/

def sizes : Document :=
  ⟨.object [("components", .object [(schemasSection, .object
    [("Size", .object [("enum", .array [.string "S", .string "M"])])])])]⟩

def measured : List Json :=
  [.string "M", .object [("chest", .ofNat 96), ("length", .ofNat 71)],
    .object [("length", .ofNat 71), ("chest", .ofNat 96)]]

def shirtSteps : List (Origin sizes × String) :=
  [(.value (.object [("properties", .object [("size", schemaReference "Size")])]), "shirt"),
    (.value (.object [("properties", .object [("size", .object
      [("enum", .array measured), ("examples", .array measured)])])]), "shirt")]

def shirtTable : FieldTable :=
  shirtSteps.foldl (fun t step => t.walk sizes 3 step.1 step.2) empty

theorem writtenIn_walks_shirts :
    shirtTable.WrittenIn sizes (shirtSteps.map fun step => step.1.schema)
      ∧ sizes.root.DistinctKeys ∧ (∀ step ∈ shirtSteps, step.1.schema.DistinctKeys)
      ∧ ("shirt.size", .string "S" :: measured.take 2) ∈ shirtTable.enums
      ∧ (Json.string "S" :: measured.take 2).Pairwise fun v w => w.same v = false := by
  obtain ⟨hwritten, hapart⟩ := writtenIn_walks sizes 3 shirtSteps
  have hdocument : sizes.root.DistinctKeys := by decide +kernel
  have hsteps : ∀ step ∈ shirtSteps, step.1.schema.DistinctKeys := by decide +kernel
  have hmem : ("shirt.size", .string "S" :: measured.take 2) ∈ shirtTable.enums := by
    decide +kernel
  exact ⟨hwritten, hdocument, hsteps, hmem, hapart hdocument hsteps _ _ hmem⟩

end FieldTable

end ApiSurvey.Schema
