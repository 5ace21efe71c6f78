import ApiSurvey.Proofs.Schema.Expansion

/-!
# References to missing components

A reference to a component that is missing cannot be followed, so a walk opens the node that it
stands in, as it does with any other schema.  Nothing comes of a bare reference.  But a node may
have more members beside its reference, and these count as if the reference were not there: such a
node is an empty branch exactly if none of its members is one that a walk reads.
-/

namespace ApiSurvey.Schema

/-- Nothing is said by a node of its field, and no schema is below it. -/
structure Node.Blank (n : Node) : Prop where
  exits : n.exits = []
  noExample : n.example? = none
  noValues : n.enum?.getD [] = []
  writable : n.isReadOnly = false

lemma Node.Blank.recordAll_valueFindings {n : Node} (h : n.Blank) (t : FieldTable)
    (path : String) : t.recordAll (valueFindings path n) = t := by
  have hvalues := h.noValues
  cases henum : n.enum? with
  | none => simp [valueFindings, h.noExample, henum, FieldTable.recordAll]
  | some values =>
    rw [henum, Option.getD_some] at hvalues
    simp [valueFindings, h.noExample, henum, hvalues, FieldTable.recordAll, FieldTable.record]

/-- Only an enumeration of no values leaves a table empty. -/
lemma FieldTable.eq_enumValues_nil_of_mem {fs : List Finding} {f : Finding}
    (h : FieldTable.empty.recordAll fs = .empty) (hf : f ∈ fs) :
    ∃ path, f = .enumValues path [] := by
  cases f with
  | required path =>
    have hmem := mem_required_recordAll (t := .empty).2 (Or.inr hf)
    rw [h] at hmem
    cases hmem
  | readOnly path =>
    have hmem := mem_readOnly_recordAll (t := .empty).2 (Or.inr hf)
    rw [h] at hmem
    cases hmem
  | exampleValue path value =>
    have hmem := mem_examples_recordAll (t := .empty).2 (Or.inr ⟨value, hf⟩)
    rw [h] at hmem
    cases hmem
  | truncated truncation =>
    have hmem := mem_truncated_recordAll (t := .empty).2 (Or.inr hf)
    rw [h] at hmem
    cases hmem
  | enumValues path values =>
    cases values with
    | nil => exact ⟨path, rfl⟩
    | cons value values =>
      have hvalue : value ∈ (Finding.enumValues path (value :: values)).valuesAt path := by
        simp [Finding.valuesAt]
      obtain ⟨known, hknown, -⟩ := exists_enum?_of_mem_valuesAt hf hvalue
      rw [h] at hknown
      cases hknown

namespace Document

/-- A schema refers to a component that is missing. -/
def Dangling (d : Document) (schema : Json) : Prop :=
  ∃ token, reference? schemasSection schema = some token
    ∧ d.lookup? schemasSection token = none

/-- A schema is an empty branch wherever it stands: no walk that comes to it finds anything from
there on, and on the way to it, as a property, only that it is required is recorded. -/
structure EmptyBranch (d : Document) (schema : Json) : Prop where
  visited : ∀ (o : Origin d) path n v, Reaches d (.start o path) n v → v.schema = schema →
    ∀ limit levels, findings d limit (levels + 1) v = []
  noted : ∀ (t : FieldTable) names path key,
    t.recordAll (propertyFindings d names path key schema)
      = if names.contains key then t.record (.required path) else t

variable {d : Document} {schema : Json} {node : Node}

namespace Dangling

lemma target?_eq_none (h : d.Dangling schema) : d.target? schema = none := by
  obtain ⟨token, href, hlookup⟩ := h
  rw [target?, href, Option.bind_some, hlookup]

lemma exists_node (h : d.Dangling schema) : ∃ node, Node.of? schema = some node := by
  obtain ⟨token, href, -⟩ := h
  cases schema with
  | object members => exact ⟨⟨members⟩, rfl⟩
  | _ => simp [reference?, Json.get?] at href

/-- What is noted of the property is noted of the node that the reference stands in. -/
lemma propertyFindings_eq (h : d.Dangling schema) (hnode : Node.of? schema = some node)
    (names : List String) (path key : String) :
    propertyFindings d names path key schema
      = (if names.contains key then [.required path] else [])
        ++ (valueFindings path node ++ if node.isReadOnly then [.readOnly path] else []) := by
  rw [propertyFindings, resolve_eq_getD_target?, h.target?_eq_none, Option.getD_none, hnode]

/-- A walk opens the node that the reference stands in. -/
lemma findings_eq {o : Origin d} {path : String} {n limit levels : Nat} {v : Visit}
    (h : d.Dangling v.schema) (hnode : Node.of? v.schema = some node)
    (hv : Reaches d (.start o path) n v) :
    findings d limit (levels + 1) v = node.exits.flatMap fun out =>
      out.1.found d v node out.2 ++ findings d limit levels (v.wayOut d node out).next :=
  findings_of_opens (((Visit.Expands.start o path).of_reaches hv).opens h.target?_eq_none) hnode

end Dangling

lemma Dangling.emptyBranch (h : d.Dangling schema) (hnode : Node.of? schema = some node)
    (hblank : node.Blank) : d.EmptyBranch schema where
  visited := by
    rintro o path n v hv rfl limit levels
    rw [h.findings_eq hnode hv, hblank.exits, List.flatMap_nil]
  noted := by
    intro t names path key
    rw [h.propertyFindings_eq hnode, hblank.writable, if_neg Bool.false_ne_true,
      List.append_nil, FieldTable.recordAll_append, hblank.recordAll_valueFindings]
    split <;> rfl

namespace EmptyBranch

/-- A schema below the node would be visited: where no level is left for it, this is noted. -/
lemma exits_eq_nil (h : d.EmptyBranch schema) (hdangling : d.Dangling schema)
    (hnode : Node.of? schema = some node) : node.exits = [] := by
  have hnone := h.visited (.value schema) "" 0 _ .refl rfl 0 0
  rw [hdangling.findings_eq (v := .start (.value schema : Origin d) "") hnode .refl,
    List.flatMap_eq_nil_iff] at hnone
  refine List.eq_nil_iff_forall_not_mem.2 fun out hout => ?_
  exact List.cons_ne_nil _ _ (List.append_eq_nil_iff.1 (hnone out hout)).2

/-- The node says nothing, since it would be in the table of a property. -/
lemma blank (h : d.EmptyBranch schema) (hdangling : d.Dangling schema)
    (hnode : Node.of? schema = some node) : node.Blank := by
  have hnoted := h.noted .empty [] "" ""
  rw [List.contains_nil, if_neg Bool.false_ne_true, hdangling.propertyFindings_eq hnode] at hnoted
  have hvoid (f : Finding) (hf : f ∈ valueFindings "" node
      ++ if node.isReadOnly then [.readOnly ""] else []) : ∃ path, f = .enumValues path [] :=
    FieldTable.eq_enumValues_nil_of_mem hnoted (List.mem_append_right _ hf)
  refine ⟨h.exits_eq_nil hdangling hnode, ?_, ?_, ?_⟩
  · by_contra hne
    obtain ⟨value, hvalue⟩ := Option.ne_none_iff_exists'.1 hne
    obtain ⟨path, hpath⟩ := hvoid (.exampleValue "" value) (by simp [valueFindings, hvalue])
    cases hpath
  · cases henum : node.enum? with
    | none => rfl
    | some values =>
      obtain ⟨path, hpath⟩ := hvoid (.enumValues "" values) (by simp [valueFindings, henum])
      exact (Finding.enumValues.inj hpath).2
  · by_contra hne
    obtain ⟨path, hpath⟩ := hvoid (.readOnly "") (by simpa [valueFindings] using hne)
    cases hpath

end EmptyBranch

/-- **A reference to a missing component is an empty branch exactly if its node is blank**: if it
has no example, no enumerated values, no read-only mark and no schemas below it beside the
reference. -/
theorem emptyBranch_iff_blank (h : d.Dangling schema) :
    d.EmptyBranch schema ↔ ∃ node, Node.of? schema = some node ∧ node.Blank := by
  constructor
  · intro hempty
    obtain ⟨node, hnode⟩ := h.exists_node
    exact ⟨node, hnode, hempty.blank h hnode⟩
  · rintro ⟨node, hnode, hblank⟩
    exact h.emptyBranch hnode hblank

/-! An order whose owner is a person, where persons are described nowhere. -/

def missingPerson : Json := .object
  [("$ref", .string "#/components/schemas/Person"), ("description", .string "Who ordered it.")]

theorem emptyBranch_missingPerson :
    (ofSchemas []).Dangling missingPerson ∧ (ofSchemas []).EmptyBranch missingPerson := by
  have hdangling : (ofSchemas []).Dangling missingPerson := ⟨"Person", rfl, rfl⟩
  refine ⟨hdangling, (emptyBranch_iff_blank hdangling).2 ⟨_, rfl, ?_⟩⟩
  exact ⟨rfl, rfl, rfl, rfl⟩

/-- The same owner with a read-only mark, and with a name of its own. -/
def namedPerson : Json := .object
  [("$ref", .string "#/components/schemas/Person"), ("readOnly", .bool true),
    ("required", .array [.string "name"]),
    ("properties", .object [("name", .object [("example", .string "Ada")])])]

/-- What stands beside the reference is recorded. -/
theorem bodyTable_namedPerson :
    (ofSchemas []).Dangling namedPerson
      ∧ bodyTable (ofSchemas []) defaultMaxDepth
          (.value (.object [("properties", .object [("owner", namedPerson)])]))
        = ⟨[("owner.name", .string "Ada")], [], ["owner.name"], ["owner"], []⟩ :=
  ⟨⟨"Person", rfl, rfl⟩, rfl⟩

end Document

end ApiSurvey.Schema
