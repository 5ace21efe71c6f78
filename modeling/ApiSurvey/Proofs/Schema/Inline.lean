import ApiSurvey.Proofs.Schema.Recorded
import ApiSurvey.Proofs.Schema.Substitution

/-!
# Inlining references

The references of a schema can be replaced by the components that they lead to, and those in turn
by theirs.  If no chain of references is cyclic, none is left after as many rounds as there are
components.

A walk finds the same in the inlined schema as in the schema itself, in the same order, provided
that no component is a mere reference to another one: what is found of a property is looked up one
reference further, but not two.
-/

namespace ApiSurvey.Schema

namespace Document

/-- The schema with its references replaced in so many rounds. -/
def inline (d : Document) : Nat → Json → Json
  | 0, schema => schema
  | rounds + 1, schema => d.substitute (d.inline rounds) .schema schema

/-- The schema with its references inlined.  A chain of references takes at most one round for
each component, and one more round finds none left. -/
def inlined (d : Document) (schema : Json) : Json :=
  d.inline (d.schemaNames.length + 1) schema

variable {d : Document} {schema target next : Json} {token : String} {n : Nat}

/-- No component on a chain of references from the schema refers to a component itself. -/
def AliasFree (d : Document) (schema : Json) : Prop :=
  ∀ token target, d.Refers schema token → d.lookup? schemasSection token = some target →
    d.target? target = none

/-- What makes inlining a schema in so many rounds complete, and exact for a walk. -/
structure Inlinable (d : Document) (n : Nat) (schema : Json) : Prop where
  acyclic : d.Acyclic schema
  aliasFree : d.AliasFree schema
  settles : d.Settles n schema

namespace Inlinable

lemma below {node : Node} {exit : Exit} (h : d.Inlinable n schema)
    (hnone : d.target? schema = none) (hnode : Node.of? schema = some node)
    (hexit : (exit, next) ∈ node.exits) : d.Inlinable n next where
  acyclic := h.acyclic.below hnone hnode hexit
  aliasFree := fun token target htoken =>
    h.aliasFree token target (htoken.below hnone hnode hexit)
  settles := h.settles.below hnone hnode hexit

/-- A component to which the schema refers takes one round less. -/
lemma of_target (h : d.Inlinable n schema) (htarget : d.target? schema = some target) :
    ∃ k, n = k + 1 ∧ d.Inlinable k target ∧ d.target? target = none := by
  obtain ⟨token, href, hlookup⟩ := target?_eq_some_iff.1 htarget
  have hmentions : d.Mentions schema token := .root href hlookup
  cases n with
  | zero => exact absurd hmentions (h.settles token)
  | succ k =>
    refine ⟨k, rfl, ⟨h.acyclic.of_target hmentions hlookup, ?_, ?_⟩, ?_⟩
    · exact fun b t hb => h.aliasFree b t (.of_target hmentions hlookup hb)
    · exact h.settles token target hmentions hlookup
    · exact h.aliasFree token target hmentions.refers hlookup

end Inlinable

/-! ## No reference is left -/

section

variable {expand : Json → Json}

lemma not_mentions_substitute_of_target (htarget : d.target? schema = some target)
    (hexpand : ∀ a target, d.Mentions schema a → d.lookup? schemasSection a = some target →
      ∀ token, ¬ d.Mentions (expand target) token) (token : String) :
    ¬ d.Mentions (d.substitute expand .schema schema) token := by
  obtain ⟨a, href, hlookup⟩ := target?_eq_some_iff.1 htarget
  rw [substitute_of_target htarget]
  exact hexpand a target (.root href hlookup) hlookup token

/-- If none is left in what the components become, then none is left in the schema. -/
lemma not_mentions_substitute
    (hexpand : ∀ a target, d.Mentions schema a → d.lookup? schemasSection a = some target →
      ∀ token, ¬ d.Mentions (expand target) token) (token : String) :
    ¬ d.Mentions (d.substitute expand .schema schema) token := by
  intro h
  generalize hs : d.substitute expand .schema schema = s at h
  -- the induction follows the path to the reference through the schema after the replacement
  induction h generalizing schema with
  | root href hlookup =>
    subst hs
    cases htarget : d.target? schema with
    | some target =>
      exact not_mentions_substitute_of_target htarget hexpand _ (.root href hlookup)
    | none => exact target?_ne_none href hlookup (target?_substitute htarget)
  | inside hnone hnode hexit hnext ih =>
    subst hs
    cases htarget : d.target? schema with
    | some target =>
      exact not_mentions_substitute_of_target htarget hexpand _ (.inside hnone hnode hexit hnext)
    | none =>
      rw [node?_substitute htarget] at hnode
      obtain ⟨node, hnode', rfl⟩ := Option.map_eq_some_iff.1 hnode
      rw [Node.exits_substitute] at hexit
      obtain ⟨out, hout, heq⟩ := List.mem_map.1 hexit
      obtain ⟨rfl, rfl⟩ := Prod.mk.inj heq
      exact ih (fun a t ha => hexpand a t (.inside htarget hnode' hout ha)) rfl

end

/-- A chain of at most `n` references is gone after one round more. -/
lemma not_mentions_inline (h : d.Settles n schema) (token : String) :
    ¬ d.Mentions (d.inline (n + 1) schema) token := by
  induction n generalizing schema token with
  | zero => exact not_mentions_substitute (fun a _ ha => absurd ha (h a)) token
  | succ n ih =>
    refine not_mentions_substitute (fun a target ha hlookup b => ?_) token
    exact ih (h a target ha hlookup) b

/-! ## The same is found -/

lemma propertyFindings_inline (h : d.Inlinable n schema) (names : List String)
    (path key : String) :
    propertyFindings d names path key (d.inline (n + 1) schema)
      = propertyFindings d names path key schema := by
  cases htarget : d.target? schema with
  | none =>
    refine propertyFindings_substitute ?_ htarget names path key
    rw [resolve_eq_getD_target?, htarget, Option.getD_none]
  | some target =>
    obtain ⟨k, rfl, -, hnone⟩ := h.of_target htarget
    rw [inline, substitute_of_target htarget]
    refine propertyFindings_substitute ?_ hnone names path key
    rw [resolve_eq_getD_target?, htarget, Option.getD_some]

lemma found_inline {v w : Visit} {node : Node} {expand : Json → Json} {exit : Exit}
    (hpath : w.path = v.path) (hinherited : w.inherited = v.inherited)
    (h : d.Inlinable n next) :
    exit.found d w (node.substitute d expand) (d.inline (n + 1) next)
      = exit.found d v node next := by
  cases exit with
  | property key =>
    simp only [Exit.found, hpath, hinherited, Node.required_substitute, propertyFindings_inline h]
  | items => simp only [Exit.found, hpath, Node.valueFindings_substitute]
  | _ => rfl

/-- **As long as no branch is left for its depth, a walk finds the same in the inlined schema**,
even where it may go deeper there. -/
lemma findings_inline {limit levels levels' : Nat} {v : Visit} (site : Site)
    (hlevels : levels ≤ levels') (hagrees : d.Agrees v) (h : d.Inlinable n v.schema)
    (hdepth : ∀ path limit', Finding.truncated ⟨path, .depth limit'⟩ ∉ findings d limit levels v) :
    findings d limit levels' ⟨d.inline (n + 1) v.schema, site, v.path, v.inherited, []⟩
      = findings d limit levels v := by
  -- the visit keeps its path and its names, and loses the references that it is expanding
  induction levels generalizing levels' n v site with
  | zero => exact absurd (List.mem_singleton.2 rfl) (hdepth v.path limit)
  | succ levels ih =>
    obtain ⟨levels', rfl⟩ : ∃ m, levels' = m + 1 := ⟨levels' - 1, by omega⟩
    cases htarget : d.target? v.schema with
    | some target =>
      obtain ⟨token, href, hlookup⟩ := target?_eq_some_iff.1 htarget
      obtain ⟨k, rfl, hk, -⟩ := h.of_target htarget
      have hfollows := hagrees.follows h.acyclic href hlookup
      rw [findings_of_follows hfollows] at hdepth ⊢
      rw [inline, substitute_of_target htarget]
      -- the walk of the inlined schema stays where it is, with a level to spare
      exact ih site (by omega) (hagrees.hop hfollows) hk hdepth
    | none =>
      have hopens := hagrees.opens htarget
      have hopens' : d.Opens [] site (d.inline (n + 1) v.schema) :=
        opens_of_no_target (target?_substitute htarget) (List.forall_mem_nil _)
      cases hnode : Node.of? v.schema with
      | none =>
        have hnode' : Node.of? (d.inline (n + 1) v.schema) = none := by
          rw [inline, node?_substitute htarget, hnode, Option.map_none]
        rw [findings_of_no_node hopens hnode, findings_of_no_node hopens' hnode']
      | some node =>
        have hnode' : Node.of? (d.inline (n + 1) v.schema)
            = some (node.substitute d (d.inline n)) := by
          rw [inline, node?_substitute htarget, hnode, Option.map_some]
        rw [findings_of_opens hopens hnode] at hdepth ⊢
        rw [findings_of_opens hopens' hnode', Node.exits_substitute, List.flatMap_map]
        refine List.flatMap_congr fun out hout => ?_
        have hbelow : d.Inlinable n out.2 := h.below htarget hnode hout
        have hlevels : levels ≤ levels' := by omega
        have hdepth' : ∀ path limit', Finding.truncated ⟨path, .depth limit'⟩ ∉
            findings d limit levels (v.wayOut d node out).next := fun path limit' hmem =>
          hdepth path limit' (List.mem_flatMap.2 ⟨out, hout, List.mem_append_right _ hmem⟩)
        have hrest :=
          ih (out.1.site site) hlevels (hagrees.wayOut htarget hnode hout) hbelow hdepth'
        have hinherited : out.1.inherited (node.substitute d (d.inline n)) v.inherited
            = out.1.inherited node v.inherited := by
          rw [Exit.inherited, Exit.inherited, Node.required_substitute]
        rw [← hrest]
        refine congrArg₂ _ (found_inline rfl rfl hbelow) ?_
        show findings d limit levels' ⟨_, _, _, _, _⟩ = _
        rw [hinherited]
        rfl

/-- **Walking the inlined schema gives the table of walking the schema.** -/
theorem walk_inlined (d : Document) (maxDepth : Nat) (o : Origin d) (path : String)
    (hacyclic : d.Acyclic o.schema) (halias : d.AliasFree o.schema)
    (hdepth : (FieldTable.empty.walk d maxDepth o path).DepthFree) :
    (∀ token, ¬ d.Mentions (d.inlined o.schema) token)
      ∧ FieldTable.empty.walk d maxDepth (.value (d.inlined o.schema)) path
        = FieldTable.empty.walk d maxDepth o path := by
  have hsettles : d.Settles d.schemaNames.length o.schema := acyclic_iff_settles.1 hacyclic
  have h : d.Inlinable d.schemaNames.length o.schema := ⟨hacyclic, halias, hsettles⟩
  refine ⟨not_mentions_inline hsettles, ?_⟩
  rw [FieldTable.walk, FieldTable.depthFree_recordAll_iff] at hdepth
  rw [FieldTable.walk, FieldTable.walk]
  congr 1
  exact findings_inline .elsewhere (Nat.le_refl _) (agrees_start o path) h hdepth

/-! A list of pets, where a reference leads to a component with another one. -/

def nameSchema : Json := .object [("type", .string "string"), ("example", .string "Rex")]

def petSchema : Json := .object
  [("required", .array [.string "name"]),
   ("properties", .object [("name", schemaReference "Name")])]

def petList : Json := .object [("type", .string "array"), ("items", schemaReference "Pet")]

def pets : Document := ⟨.object [("components", .object [("schemas", .object
  [("Name", nameSchema), ("Pet", petSchema)])])]⟩

lemma not_mentions_nameSchema : ¬ pets.Mentions nameSchema token := by
  intro h
  obtain ⟨out, hout, -⟩ := h.exits rfl rfl
  cases hout

lemma eq_of_mentions_petSchema (h : pets.Mentions petSchema token) : token = "Name" := by
  obtain ⟨out, hout, h⟩ := h.exits rfl rfl
  obtain rfl := List.mem_singleton.1 hout
  have href := h.reference rfl
  exact (Option.some.inj href).symm

lemma eq_of_mentions_petList (h : pets.Mentions petList token) : token = "Pet" := by
  obtain ⟨out, hout, h⟩ := h.exits rfl rfl
  obtain rfl := List.mem_singleton.1 hout
  have href := h.reference rfl
  exact (Option.some.inj href).symm

lemma eq_of_refers_petList (h : pets.Refers petList token) : token = "Pet" ∨ token = "Name" := by
  obtain ⟨first, hfirst, hchain⟩ := h
  induction hchain with
  | refl => exact Or.inl (eq_of_mentions_petList hfirst)
  | tail _ hlast ih =>
    obtain ⟨target, hlookup, htoken⟩ := hlast
    rcases ih with rfl | rfl
    · obtain rfl : petSchema = target := Option.some.inj hlookup
      exact Or.inr (eq_of_mentions_petSchema htoken)
    · obtain rfl : nameSchema = target := Option.some.inj hlookup
      exact absurd htoken not_mentions_nameSchema

lemma settles_petList : pets.Settles 2 petList := by
  intro token target htoken hlookup
  obtain rfl := eq_of_mentions_petList htoken
  obtain rfl : petSchema = target := Option.some.inj hlookup
  intro token target htoken hlookup
  obtain rfl := eq_of_mentions_petSchema htoken
  obtain rfl : nameSchema = target := Option.some.inj hlookup
  exact fun _ => not_mentions_nameSchema

lemma aliasFree_petList : pets.AliasFree petList := by
  intro token target htoken hlookup
  rcases eq_of_refers_petList htoken with rfl | rfl
  · obtain rfl : petSchema = target := Option.some.inj hlookup
    rfl
  · obtain rfl : nameSchema = target := Option.some.inj hlookup
    rfl

lemma depthFree_petList : (FieldTable.empty.walk pets 8 (.value petList) "").DepthFree :=
  .of_truncated_eq_nil rfl

theorem walk_inlined_petList :
    pets.inlined petList ≠ petList
      ∧ (FieldTable.empty.walk pets 8 (.value petList) "").required = ["[].name"]
      ∧ FieldTable.empty.walk pets 8 (.value (pets.inlined petList)) ""
        = FieldTable.empty.walk pets 8 (.value petList) "" := by
  refine ⟨by decide, rfl, ?_⟩
  exact (walk_inlined pets 8 (.value petList) "" settles_petList.acyclic aliasFree_petList
    depthFree_petList).2

end Document

end ApiSurvey.Schema
