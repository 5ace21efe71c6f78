import ApiSurvey.Proofs.Schema.Component
import ApiSurvey.Proofs.Schema.Site
import ApiSurvey.Proofs.Schema.Substitution

/-!
# Aliases of components

A component may be a mere reference to another one.  A walk follows the reference to such an alias
and then the alias itself, so that it comes to the component either way, with the same findings
from there on.

Only what is noted of a property itself is looked up one reference further and no more: the
example, the enumerated values and the read-only mark of a component are not found for a property
that refers to an alias of it.
-/

namespace ApiSurvey.Schema

/-- A schema that refers to the component of a name. -/
def IsReferenceTo (name : String) (schema : Json) : Prop :=
  ∃ token, reference? schemasSection schema = some token ∧ componentName token = name

/-- A schema at whose own node nothing is noted of a property. -/
def Silent (schema : Json) : Prop :=
  ∀ node, Node.of? schema = some node →
    node.example? = none ∧ node.enum? = none ∧ node.isReadOnly = false

/-- A schema has a property, of its own or of a schema inside it. -/
def HasProperty (schema property : Json) : Prop :=
  ∃ part ∈ schema :: schema.inside, ∃ node key, Node.of? part = some node
    ∧ (Exit.property key, property) ∈ node.exits

/-- The schema with each reference in it to a component replaced by a reference to another one.
A document with this component alone tells which references these are. -/
def redirect (name synonym : String) (schema : Json) : Json :=
  (Document.ofSchemas [(name, .null)]).substitute (fun _ => schemaReference synonym) .schema schema

/-- The node with the references below it redirected. -/
def Node.redirect (name synonym : String) (n : Node) : Node :=
  n.substitute (.ofSchemas [(name, .null)]) fun _ => schemaReference synonym

/-- A name is bound to a reference to an existing component; neither the document nor the schema
refers to it; and the schema writes the name of the component as the alias does. -/
structure Document.IsAlias (d : Document) (schema : Json) (name synonym : String) : Prop where
  named : synonym ≠ ""
  component : ∃ target, d.component? schemasSection name = some target
  bound : d.component? schemasSection synonym = some (schemaReference name)
  fresh : ∀ token ∈ d.references schema, componentName token ≠ synonym
  spelled : ∀ token ∈ (schema :: schema.inside).filterMap (reference? schemasSection),
    componentName token = name → token = writtenName name

/-! ## Redirecting at a schema -/

section

variable {d : Document} {name synonym : String} {schema : Json}

lemma reference?_ne_empty {sectionName token : String}
    (h : reference? sectionName schema = some token) : token ≠ "" := by
  simp only [reference?, Option.bind_eq_bind, Option.bind_eq_some_iff] at h
  obtain ⟨_, -, _, -, cs, -, hcs⟩ := h
  split at hcs
  · cases hcs
  · next hbad =>
    obtain rfl := Option.some.inj hcs
    intro hempty
    have hnil : cs = [] := by simpa using congrArg String.toList hempty
    simp [hnil] at hbad

lemma target?_ofSchemas_eq_none_iff {v : Json} :
    (Document.ofSchemas [(name, v)]).target? schema = none ↔ ¬ IsReferenceTo name schema := by
  cases href : reference? schemasSection schema with
  | none => simp [Document.target?, IsReferenceTo, href]
  | some token =>
    simp [Document.target?, IsReferenceTo, href, Document.lookup?, Document.component?_ofSchemas,
      Json.lookup_cons]

lemma redirect_of_reference (h : IsReferenceTo name schema) :
    redirect name synonym schema = schemaReference synonym := by
  obtain ⟨target, htarget⟩ := Option.ne_none_iff_exists'.1
    (mt target?_ofSchemas_eq_none_iff.1 (not_not_intro h))
  exact Document.substitute_of_target htarget

lemma reference?_redirect (h : ¬ IsReferenceTo name schema) :
    reference? schemasSection (redirect name synonym schema) = reference? schemasSection schema :=
  Document.reference?_substitute (target?_ofSchemas_eq_none_iff.2 h)

lemma target?_redirect (h : ¬ IsReferenceTo name schema) :
    d.target? (redirect name synonym schema) = d.target? schema := by
  rw [Document.target?, reference?_redirect h]
  rfl

lemma node?_redirect (h : ¬ IsReferenceTo name schema) :
    Node.of? (redirect name synonym schema) = (Node.of? schema).map (Node.redirect name synonym) :=
  Document.node?_substitute (target?_ofSchemas_eq_none_iff.2 h)

lemma Node.exits_redirect (n : Node) :
    (n.redirect name synonym).exits
      = n.exits.map fun out => (out.1, Schema.redirect name synonym out.2) :=
  Node.exits_substitute _ _ n

lemma Node.required_redirect (n : Node) : (n.redirect name synonym).required = n.required :=
  Node.required_substitute _ _ n

lemma Node.inherited_redirect (n : Node) (above : List String) (exit : Exit) :
    exit.inherited (n.redirect name synonym) above = exit.inherited n above := by
  rw [Exit.inherited, Exit.inherited, Node.required_redirect]

/-- What is found on the way to a property stays unless the property itself is redirected. -/
lemma propertyFindings_redirect (h : ¬ IsReferenceTo name schema) (names : List String)
    (path key : String) :
    propertyFindings d names path key (redirect name synonym schema)
      = propertyFindings d names path key schema := by
  rw [propertyFindings, propertyFindings, Document.resolve_eq_getD_target?,
    Document.resolve_eq_getD_target?, target?_redirect h]
  cases htarget : d.target? schema with
  | some target => rfl
  | none =>
    simp only [Option.getD_none, node?_redirect h]
    cases Node.of? schema with
    | none => rfl
    | some node =>
      simp [Node.redirect, Node.valueFindings_substitute, Node.isReadOnly_substitute]

lemma propertyFindings_of_silent (h : Silent (d.resolve schemasSection schema))
    (names : List String) (path key : String) :
    propertyFindings d names path key schema
      = if names.contains key then [.required path] else [] := by
  cases hnode : Node.of? (d.resolve schemasSection schema) with
  | none => simp [propertyFindings, hnode]
  | some node =>
    obtain ⟨hexample, henum, hreadOnly⟩ := h node hnode
    simp [propertyFindings, hnode, valueFindings, hexample, henum, hreadOnly]

/-- On the way to a property it is found to be required whatever its schema. -/
lemma requiredPath?_propertyFindings (names : List String) (path key : String) :
    (propertyFindings d names path key schema).filterMap Finding.requiredPath?
      = if names.contains key then [path] else [] := by
  have hvalues : ∀ node, (valueFindings path node).filterMap Finding.requiredPath? = [] := by
    intro node
    cases hexample : node.example? <;> cases henum : node.enum? <;>
      simp [valueFindings, hexample, henum, Finding.requiredPath?]
  have hrequired : (if names.contains key then [Finding.required path] else []).filterMap
      Finding.requiredPath? = if names.contains key then [path] else [] := by
    split <;> rfl
  rw [propertyFindings, List.filterMap_append, hrequired]
  cases Node.of? (d.resolve schemasSection schema) with
  | none => simp
  | some node =>
    cases hreadOnly : node.isReadOnly <;> simp [hvalues, hreadOnly, Finding.requiredPath?]

end

/-! ## The walk of the redirected schema -/

/-- A visit within the schema that is walked: no reference is being expanded. -/
def Visit.within (schema : Json) (path : String) (inherited : List String) : Visit :=
  ⟨schema, .elsewhere, path, inherited, []⟩

section

variable {d : Document} {root schema : Json} {name synonym path : String}
  {inherited : List String} {levels levels' : Nat}

namespace Document.IsAlias

lemma writtenName_notMem (h : d.IsAlias root name synonym) :
    writtenName synonym ∉ d.references root := fun hmem =>
  h.fresh _ hmem (componentName_writtenName synonym)

/-- A reference to the component in the schema leads to it, and its name is written as in the
alias. -/
lemma follows (h : d.IsAlias root name synonym) (hpart : schema ∈ root :: root.inside)
    (hrefers : IsReferenceTo name schema) :
    ∃ target, d.Follows [] .elsewhere schema (writtenName name) target := by
  obtain ⟨target, htarget⟩ := h.component
  obtain ⟨token, href, hname⟩ := hrefers
  obtain rfl := h.spelled token (List.mem_filterMap.2 ⟨schema, hpart, href⟩) hname
  refine ⟨target, href, List.not_mem_nil, ?_, by simp⟩
  rw [lookup?_writtenName, htarget]

lemma name_ne (h : d.IsAlias root name synonym) (hpart : schema ∈ root :: root.inside)
    (hrefers : IsReferenceTo name schema) : name ≠ "" ∧ name ≠ synonym := by
  obtain ⟨target, hfollows⟩ := h.follows hpart hrefers
  constructor
  · rintro rfl
    exact reference?_ne_empty hfollows.reference rfl
  · rintro rfl
    exact h.writtenName_notMem
      (mem_references (List.mem_append_left _ hpart) hfollows.reference)

lemma follows_synonym (h : d.IsAlias root name synonym) :
    d.Follows [] .elsewhere (schemaReference synonym) (writtenName synonym)
      (schemaReference name) := by
  refine ⟨reference?_schemaReference h.named, List.not_mem_nil, ?_, by simp⟩
  rw [lookup?_writtenName, h.bound]

/-- The alias itself is followed to the component. -/
lemma follows_name (h : d.IsAlias root name synonym) (hpart : schema ∈ root :: root.inside)
    (hrefers : IsReferenceTo name schema) {target : Json}
    (hlookup : d.lookup? schemasSection (writtenName name) = some target) :
    d.Follows [writtenName synonym] (.component (componentName (writtenName synonym)))
      (schemaReference name) (writtenName name) target := by
  obtain ⟨hname, hne⟩ := h.name_ne hpart hrefers
  refine ⟨reference?_schemaReference hname, fun hmem => ?_, hlookup, ?_⟩
  · have hsame := congrArg componentName (List.mem_singleton.1 hmem)
    rw [componentName_writtenName, componentName_writtenName] at hsame
    exact hne hsame
  · rw [componentName_writtenName, componentName_writtenName]
    simpa using hne.symm

/-- A walk comes from the alias to the component, with one more reference being expanded. -/
lemma findings_synonym (h : d.IsAlias root name synonym) (hpart : schema ∈ root :: root.inside)
    (hrefers : IsReferenceTo name schema) (limit limit' : Nat)
    (hends : (Visit.within schema path inherited).Ends d levels)
    (hends' : (Visit.within (schemaReference synonym) path inherited).Ends d levels') :
    findings d limit' levels' (.within (schemaReference synonym) path inherited)
      = findings d limit levels (.within schema path inherited) := by
  obtain ⟨target, hfollows⟩ := h.follows hpart hrefers
  have hfirst := h.follows_synonym
  have hsecond := h.follows_name hpart hrefers hfollows.lookup
  -- one hop on the one side, two on the other
  obtain ⟨n, rfl⟩ := hends.exists_eq_succ
  obtain ⟨n', rfl⟩ := hends'.exists_eq_succ
  have hends₁ := hends'.hop hfirst
  obtain ⟨n'', rfl⟩ := hends₁.exists_eq_succ
  have hends₂ := hends₁.hop hsecond
  rw [findings_of_follows (v := .within schema path inherited) hfollows,
    findings_of_follows (v := .within (schemaReference synonym) path inherited) hfirst,
    findings_of_follows hsecond]
  refine findings_eq_of_ends_of_forall limit limit' (hends.hop hfollows) hends₂ fun n => ?_
  have hscope : target ∈ d.scope root := mem_scope_of_lookup? hfollows.lookup
  refine findings_congr_active
    (v := (Visit.within schema path inherited).hop (writtenName name) target) hscope
    fun token htoken => ?_
  -- the alias is written nowhere
  have hother : token ≠ writtenName synonym := fun heq => h.writtenName_notMem (heq ▸ htoken)
  simp [Visit.within, Visit.hop, hother]

end Document.IsAlias

lemma Visit.wayOut_within (node : Node) (exit : Exit) (next : Json) :
    ((Visit.within schema path inherited).wayOut d node (exit, next)).next
      = .within next (exit.path path) (exit.inherited node inherited) := by
  simp only [Visit.wayOut, Visit.below, Visit.within, Exit.site_elsewhere]

lemma follows_within {target : Json} (htarget : d.target? schema = some target) :
    ∃ token, d.Follows [] .elsewhere schema token target := by
  obtain ⟨token, href, hlookup⟩ := Document.target?_eq_some_iff.1 htarget
  exact ⟨token, href, List.not_mem_nil, hlookup, by simp⟩

lemma opens_within (htarget : d.target? schema = none) : d.Opens [] .elsewhere schema :=
  Document.opens_of_no_target htarget (List.forall_mem_nil _)

/-- References to other components are followed as before. -/
lemma findings_redirect_of_target {target : Json} (hrefers : ¬ IsReferenceTo name schema)
    (htarget : d.target? schema = some target) (limit limit' : Nat)
    (hends : (Visit.within schema path inherited).Ends d levels)
    (hends' : (Visit.within (redirect name synonym schema) path inherited).Ends d levels') :
    findings d limit' levels' (.within (redirect name synonym schema) path inherited)
      = findings d limit levels (.within schema path inherited) := by
  obtain ⟨token, hfollows⟩ := follows_within htarget
  have hfollows' : d.Follows [] .elsewhere (redirect name synonym schema) token target :=
    ⟨(reference?_redirect hrefers).trans hfollows.reference, hfollows.fresh, hfollows.lookup,
      hfollows.away⟩
  obtain ⟨n, rfl⟩ := hends.exists_eq_succ
  obtain ⟨n', rfl⟩ := hends'.exists_eq_succ
  rw [findings_of_follows (v := .within schema path inherited) hfollows,
    findings_of_follows (v := .within (redirect name synonym schema) path inherited) hfollows']
  exact findings_eq_of_ends_of_forall limit limit' (hends.hop hfollows) (hends'.hop hfollows')
    fun _ => rfl

/-- What is found on the way out of a node shows the same if the node is redirected. -/
lemma filterMap_found_redirect {β : Type} {view : Finding → Option β}
    (hview : ∀ property, HasProperty root property → IsReferenceTo name property →
      ∀ names path key,
        (propertyFindings d names path key (schemaReference synonym)).filterMap view
          = (propertyFindings d names path key property).filterMap view)
    {node : Node} {exit : Exit} {next : Json} (hpart : schema ∈ root :: root.inside)
    (hnode : Node.of? schema = some node) (hexit : (exit, next) ∈ node.exits) :
    (exit.found d (.within (redirect name synonym schema) path inherited)
        (node.redirect name synonym) (redirect name synonym next)).filterMap view
      = (exit.found d (.within schema path inherited) node next).filterMap view := by
  cases exit with
  | property key =>
    simp only [Exit.found, Visit.within, Node.required_redirect]
    by_cases hrefers : IsReferenceTo name next
    · rw [redirect_of_reference hrefers]
      exact hview next ⟨schema, hpart, node, key, hnode, hexit⟩ hrefers _ _ _
    · rw [propertyFindings_redirect hrefers]
  | items => simp only [Exit.found, Visit.within, Node.redirect, Node.valueFindings_substitute]
  | _ => rfl

namespace Document.IsAlias

/-- As far as it shows in a view of the findings, a walk of the redirected schema finds the same,
if what is noted of the redirected properties shows the same. -/
lemma filterMap_findings_redirect {β : Type} (view : Finding → Option β)
    (h : d.IsAlias root name synonym)
    (hview : ∀ property, HasProperty root property → IsReferenceTo name property →
      ∀ names path key,
        (propertyFindings d names path key (schemaReference synonym)).filterMap view
          = (propertyFindings d names path key property).filterMap view)
    (hpart : schema ∈ root :: root.inside) (limit limit' : Nat)
    (hends : (Visit.within schema path inherited).Ends d levels)
    (hends' : (Visit.within (redirect name synonym schema) path inherited).Ends d levels') :
    (findings d limit' levels' (.within (redirect name synonym schema) path inherited)).filterMap
        view
      = (findings d limit levels (.within schema path inherited)).filterMap view := by
  -- the walk stays within the schema until it follows a reference
  induction levels generalizing levels' schema path inherited with
  | zero => exact absurd .refl (hends _)
  | succ levels ih =>
    obtain ⟨levels', rfl⟩ := hends'.exists_eq_succ
    by_cases hrefers : IsReferenceTo name schema
    · rw [redirect_of_reference hrefers] at hends' ⊢
      rw [h.findings_synonym hpart hrefers limit limit' hends hends']
    · cases htarget : d.target? schema with
      | some target =>
        rw [findings_redirect_of_target hrefers htarget limit limit' hends hends']
      | none =>
        have hopens : d.Opens [] .elsewhere schema := opens_within htarget
        have hopens' : d.Opens [] .elsewhere (redirect name synonym schema) :=
          opens_within ((target?_redirect hrefers).trans htarget)
        cases hnode : Node.of? schema with
        | none =>
          have hnode' : Node.of? (redirect name synonym schema) = none := by
            rw [node?_redirect hrefers, hnode, Option.map_none]
          rw [findings_of_no_node (v := .within schema path inherited) hopens hnode,
            findings_of_no_node (v := .within (redirect name synonym schema) path inherited)
              hopens' hnode']
        | some node =>
          have hnode' : Node.of? (redirect name synonym schema)
              = some (node.redirect name synonym) := by
            rw [node?_redirect hrefers, hnode, Option.map_some]
          rw [findings_of_opens (v := .within schema path inherited) hopens hnode,
            findings_of_opens (v := .within (redirect name synonym schema) path inherited)
              hopens' hnode',
            Node.exits_redirect, List.flatMap_map, List.filterMap_flatMap,
            List.filterMap_flatMap]
          refine List.flatMap_congr fun ⟨exit, next⟩ hexit => ?_
          have hexit' : (exit, redirect name synonym next)
              ∈ (node.redirect name synonym).exits := by
            rw [Node.exits_redirect]
            exact List.mem_map_of_mem hexit
          have hendsBelow := hends.wayOut hopens hnode hexit
          have hendsBelow' := hends'.wayOut hopens' hnode' hexit'
          rw [Visit.wayOut_within] at hendsBelow
          rw [Visit.wayOut_within, Node.inherited_redirect] at hendsBelow'
          rw [List.filterMap_append, List.filterMap_append,
            filterMap_found_redirect hview hpart hnode hexit]
          refine congrArg₂ _ rfl ?_
          rw [Visit.wayOut_within, Visit.wayOut_within, Node.inherited_redirect]
          have hbelow := List.mem_cons_of_mem root (mem_cons_inside_of_exits hpart hnode hexit)
          exact ih hbelow hendsBelow hendsBelow'

end Document.IsAlias

end

/-! ## Transparency -/

lemma silent_schemaReference (name : String) : Silent (schemaReference name) := by
  rintro node ⟨⟩
  exact ⟨rfl, rfl, rfl⟩

lemma Document.IsAlias.resolve_synonym {d : Document} {schema : Json} {name synonym : String}
    (h : d.IsAlias schema name synonym) :
    d.resolve schemasSection (schemaReference synonym) = schemaReference name := by
  rw [resolve, reference?_schemaReference h.named, Option.bind_some, lookup?_writtenName, h.bound,
    Option.getD_some]

/-- **References to a component may be redirected to an alias of it**: the same paths are required
of the schema, and its whole table is the same if nothing is noted of the component wherever a
property refers to it.  The redirected schema is none of the components any more, so the schema must
not be one that refers to itself. -/
theorem walk_redirect (d : Document) (maxDepth : Nat) (o : Origin d) (path name synonym : String)
    (hloops : ¬ o.Loops) (h : d.IsAlias o.schema name synonym)
    (hdepth : (FieldTable.empty.walk d maxDepth o path).DepthFree)
    (hdepth' : (FieldTable.empty.walk d maxDepth (.value (redirect name synonym o.schema))
      path).DepthFree) :
    (FieldTable.empty.walk d maxDepth (.value (redirect name synonym o.schema)) path).required
        = (FieldTable.empty.walk d maxDepth o path).required
      ∧ ((∀ property, HasProperty o.schema property → IsReferenceTo name property →
            Silent (d.resolve schemasSection property)) →
          FieldTable.empty.walk d maxDepth (.value (redirect name synonym o.schema)) path
            = FieldTable.empty.walk d maxDepth o path) := by
  rw [← FieldTable.walk_value hloops] at hdepth ⊢
  rw [depthFree_walk_iff] at hdepth hdepth'
  have hroot : o.schema ∈ o.schema :: o.schema.inside := List.mem_cons_self
  rw [FieldTable.walk, FieldTable.walk]
  refine ⟨?_, fun hsilent => ?_⟩
  · have hrequired := h.filterMap_findings_redirect Finding.requiredPath?
      (fun property _ _ names path key => by
        rw [requiredPath?_propertyFindings, requiredPath?_propertyFindings])
      hroot maxDepth maxDepth hdepth hdepth'
    rw [FieldTable.required_recordAll, FieldTable.required_recordAll]
    exact congrArg (List.foldl FieldTable.appendNew []) hrequired
  · have hall := h.filterMap_findings_redirect some
      (fun property hproperty hrefers names path key => by
        have hsynonym : Silent (d.resolve schemasSection (schemaReference synonym)) := by
          rw [h.resolve_synonym]
          exact silent_schemaReference name
        rw [propertyFindings_of_silent hsynonym,
          propertyFindings_of_silent (hsilent property hproperty hrefers)])
      hroot maxDepth maxDepth hdepth hdepth'
    rw [List.filterMap_some, List.filterMap_some] at hall
    exact congrArg (FieldTable.recordAll .empty) hall

/-! An order of articles, by a name of their own and by another one. -/

def articles : Document := .ofSchemas
  [("Article", .object [("example", .string "A-1"),
      ("required", .array [.string "size"]),
      ("properties", .object [("size", .object [("example", .string "M")])])]),
    ("Item", schemaReference "Article")]

def articleList : Json := .object [("type", .string "array"), ("items", schemaReference "Article")]

def articleOrder : Json := .object
  [("properties", .object [("article", schemaReference "Article")])]

lemma isAlias_articleList : articles.IsAlias articleList "Article" "Item" where
  named := by decide
  component := ⟨_, rfl⟩
  bound := rfl
  fresh := by decide
  spelled := by decide

lemma isAlias_articleOrder : articles.IsAlias articleOrder "Article" "Item" where
  named := by decide
  component := ⟨_, rfl⟩
  bound := rfl
  fresh := by decide
  spelled := by decide

lemma not_hasProperty_articleList {property : Json} : ¬ HasProperty articleList property := by
  rintro ⟨part, hpart, node, key, hnode, hexit⟩
  have hparts : part ∈ [articleList, .string "array", schemaReference "Article",
      .string "#/components/schemas/Article"] := hpart
  simp only [List.mem_cons, List.not_mem_nil, or_false] at hparts
  rcases hparts with rfl | rfl | rfl | rfl
  · obtain rfl := Option.some.inj hnode
    cases List.mem_singleton.1 hexit
  · cases hnode
  · obtain rfl := Option.some.inj hnode
    cases hexit
  · cases hnode

theorem walk_redirect_articleList :
    redirect "Article" "Item" articleList ≠ articleList
      ∧ (FieldTable.empty.walk articles 8 (.value articleList) "").required = ["[].size"]
      ∧ FieldTable.empty.walk articles 8 (.value (redirect "Article" "Item" articleList)) ""
        = FieldTable.empty.walk articles 8 (.value articleList) "" := by
  refine ⟨by decide, rfl, ?_⟩
  refine (walk_redirect articles 8 (.value articleList) "" "Article" "Item"
    (Origin.not_loops_value articleList) isAlias_articleList
    (.of_truncated_eq_nil rfl) (.of_truncated_eq_nil rfl)).2 ?_
  exact fun property hproperty _ => absurd hproperty not_hasProperty_articleList

/-- The example of a component is lost for a property that refers to an alias. -/
theorem examples_walk_redirect_articleOrder :
    articles.IsAlias articleOrder "Article" "Item"
      ∧ (FieldTable.empty.walk articles 8 (.value articleOrder) "").truncated = []
      ∧ (FieldTable.empty.walk articles 8 (.value (redirect "Article" "Item" articleOrder))
          "").truncated = []
      ∧ (FieldTable.empty.walk articles 8 (.value articleOrder) "").examples
        = [("article", .string "A-1"), ("article.size", .string "M")]
      ∧ (FieldTable.empty.walk articles 8 (.value (redirect "Article" "Item" articleOrder))
          "").examples = [("article.size", .string "M")] :=
  ⟨isAlias_articleOrder, rfl, rfl, rfl, rfl⟩

end ApiSurvey.Schema
