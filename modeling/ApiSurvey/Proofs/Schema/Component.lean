import ApiSurvey.Proofs.Schema.Bound
import ApiSurvey.Proofs.Schema.References

/-!
# The fields of a component

The fields of a component are found by walking a reference to it.  The reference is written with
escapes and read back without them, so that it leads to the component of that very name, one level
down.  Whether there is a component, however, is asked for the name as if it were written with
escapes already.  The two agree for the names in which no escape occurs; and no reference can be
written to a component whose name is empty.
-/

namespace ApiSurvey.Schema

/-! ## Documents of components -/

/-- A document with these component schemas and nothing else. -/
def Document.ofSchemas (schemas : Json.Members) : Document :=
  ⟨.object [("components", .object [(schemasSection, .object schemas)])]⟩

lemma Document.component?_ofSchemas (schemas : Json.Members) (name : String) :
    (Document.ofSchemas schemas).component? schemasSection name = schemas.lookup name := rfl

/-! ## References as they are written -/

/-- The name of a component as it is written in a reference. -/
def writtenName (name : String) : String :=
  String.ofList (Json.Pointer.escape name.toList)

lemma componentName_writtenName (name : String) : componentName (writtenName name) = name := by
  rw [componentName, writtenName, String.toList_ofList, Json.Pointer.unescape_escape,
    String.ofList_toList]

lemma lookup?_writtenName (d : Document) (sectionName name : String) :
    d.lookup? sectionName (writtenName name) = d.component? sectionName name := by
  rw [Document.lookup?, componentName_writtenName]

/-- A node with the pointer of a component refers to it by its written name. -/
lemma reference?_of_pointer {sectionName name : String} {node : Json} (hname : name ≠ "")
    (hnode : node.get? "$ref" = some (.string (.ofList
      (sectionPointer sectionName ++ Json.Pointer.escape name.toList)))) :
    reference? sectionName node = some (writtenName name) := by
  have hne : Json.Pointer.escape name.toList ≠ [] := by
    simpa [Json.Pointer.escape_eq_nil_iff] using hname
  have hslash := Json.Pointer.slash_notMem_escape name.toList
  have hstrip : Text.stripLead (sectionPointer sectionName)
      (sectionPointer sectionName ++ Json.Pointer.escape name.toList)
        = some (Json.Pointer.escape name.toList) :=
    Text.stripLead_eq_some_iff.2 rfl
  simp [reference?, hnode, Json.string?, hstrip, hne, hslash, writtenName]

lemma reference?_schemaReference {name : String} (h : name ≠ "") :
    reference? schemasSection (schemaReference name) = some (writtenName name) :=
  reference?_of_pointer h rfl

/-- No reference can be written to a component without a name. -/
lemma reference?_schemaReference_empty :
    reference? schemasSection (schemaReference "") = none := rfl

lemma node?_schemaReference (name : String) :
    ∃ node, Node.of? (schemaReference name) = some node ∧ node.exits = [] :=
  ⟨_, rfl, rfl⟩

/-! ## The walk from a reference -/

/-- The visit of a component, one level below a reference to it. -/
def Visit.ofComponent (name : String) (target : Json) : Visit :=
  ⟨target, .component name, "", [], [writtenName name]⟩

/-- The table of expanding a component, at depth one. -/
def componentExpansion (d : Document) (maxDepth : Nat) (name : String) (target : Json) :
    FieldTable :=
  .recordAll .empty (findings d maxDepth maxDepth (.ofComponent name target))

variable {d : Document} {maxDepth : Nat} {name : String}

lemma bodyTable_schemaReference_of_component {target : Json} (hname : name ≠ "")
    (htarget : d.component? schemasSection name = some target) :
    bodyTable d maxDepth (.value (schemaReference name))
      = componentExpansion d maxDepth name target := by
  have hfollows : d.Follows [] .elsewhere (schemaReference name) (writtenName name) target := by
    refine ⟨reference?_schemaReference hname, List.not_mem_nil, ?_, nofun⟩
    rw [lookup?_writtenName, htarget]
  have hhop : (Visit.start (.value (schemaReference name) : Origin d) "").hop
      (writtenName name) target = .ofComponent name target := by
    simp [Visit.hop, Visit.start, Visit.ofComponent, componentName_writtenName]
  rw [bodyTable, FieldTable.walk, walkFindings, findings_of_follows hfollows, hhop,
    componentExpansion]

/-- A reference that leads nowhere has no fields. -/
lemma bodyTable_schemaReference_of_no_component
    (hnone : name = "" ∨ d.component? schemasSection name = none) :
    bodyTable d maxDepth (.value (schemaReference name)) = .empty := by
  have htarget : d.target? (schemaReference name) = none := by
    rcases eq_or_ne name "" with rfl | hname
    · rw [Document.target?, reference?_schemaReference_empty, Option.bind_none]
    · rw [Document.target?, reference?_schemaReference hname, Option.bind_some,
        lookup?_writtenName, hnone.resolve_left hname]
  have hopens : d.Opens [] .elsewhere (schemaReference name) :=
    Document.opens_of_no_target htarget (List.forall_mem_nil _)
  obtain ⟨node, hnode, hexits⟩ := node?_schemaReference name
  rw [bodyTable, FieldTable.walk, walkFindings, findings_of_opens hopens hnode, hexits]
  rfl

/-- The fields of a component, whatever its name. -/
lemma componentTable?_eq (d : Document) (maxDepth : Nat) (name : String) :
    componentTable? d maxDepth name = (d.component? schemasSection (componentName name)).map
      fun _ => if name = "" then .empty
        else ((d.component? schemasSection name).map (componentExpansion d maxDepth name)).getD
          .empty := by
  rw [componentTable?, Document.lookup?]
  congr 1
  funext _
  split
  · next hname => exact bodyTable_schemaReference_of_no_component (Or.inl hname)
  · next hname =>
    cases htarget : d.component? schemasSection name with
    | none => exact bodyTable_schemaReference_of_no_component (Or.inr htarget)
    | some target => exact bodyTable_schemaReference_of_component hname htarget

lemma componentName_eq_self_iff : componentName name = name ↔ Json.Pointer.Plain name.toList := by
  rw [← Json.Pointer.unescape_eq_self_iff, componentName]
  constructor
  · intro h
    simpa using congrArg String.toList h
  · intro h
    rw [h, String.ofList_toList]

/-- **The fields of a component are those of its expansion, in every document in which it exists,
and there are none where it does not exist, just if its name is not empty and no escape occurs in
it.** -/
theorem forall_componentTable?_eq_iff (name : String) :
    (∀ d maxDepth, componentTable? d maxDepth name
        = (d.component? schemasSection name).map (componentExpansion d maxDepth name))
      ↔ name ≠ "" ∧ Json.Pointer.Plain name.toList := by
  rw [← componentName_eq_self_iff]
  constructor
  · intro h
    refine ⟨?_, ?_⟩
    · -- a component without a name is found, but its fields are not
      rintro rfl
      have hfields := h (.ofSchemas [("", .object
        [("properties", .object [("id", .object [("readOnly", .bool true)])])])]) 1
      exact absurd (congrArg (Option.map FieldTable.readOnly) hfields) (by decide)
    · -- a component is found under a name that it does not have
      by_contra hne
      have hsome : (Document.ofSchemas [(componentName name, .null)]).component? schemasSection
          (componentName name) = some .null := by
        simp [Document.component?_ofSchemas]
      have hnone : (Document.ofSchemas [(componentName name, .null)]).component? schemasSection
          name = none := by
        simp [Document.component?_ofSchemas, Json.lookup_cons, Ne.symm hne]
      have hfields := h (.ofSchemas [(componentName name, .null)]) 0
      rw [componentTable?_eq, hsome, hnone, Option.map_some, Option.map_none] at hfields
      cases hfields
  · rintro ⟨hname, hself⟩ d maxDepth
    rw [componentTable?_eq, hself, if_neg hname]
    cases d.component? schemasSection name <;> rfl

/-- A document with a component whose name contains a slash. -/
def slashedName : Document :=
  .ofSchemas [("a/b", .object
    [("properties", .object [("id", .object [("readOnly", .bool true)])])])]

/-- The component is said to exist under the name that only references use, and to have no
fields. -/
theorem componentTable?_slashedName :
    slashedName.component? schemasSection "a~1b" = none
      ∧ componentTable? slashedName defaultMaxDepth "a~1b" = some .empty := by
  decide

end ApiSurvey.Schema
