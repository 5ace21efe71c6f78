import ApiSurvey.Proofs.Schema.Component

/-!
# What a walk depends on

A walk reads a document only to look up the components that references lead to.  Every reference
that it meets is written somewhere in the schema, or in a component that it has come to; so the
components that are needed for the references written in the schema, and for those written in
needed components, decide about the walk.  Documents that agree on these give the same findings,
whatever else is in them, and wherever the schema stands in them, unless it is a component that
refers to itself.
-/

namespace ApiSurvey.Schema

/-- The references that are written in a schema, at any depth. -/
def referencesIn (schema : Json) : List String :=
  (schema :: schema.inside).filterMap (reference? schemasSection)

section

variable {schema next : Json} {token : String}

lemma mem_referencesIn (href : reference? schemasSection schema = some token) :
    token ∈ referencesIn schema :=
  List.mem_filterMap.2 ⟨schema, List.mem_cons_self, href⟩

/-- What is written in a schema below a node is written in the schema of the node. -/
lemma mem_referencesIn_of_exits {node : Node} {exit : Exit} (hnode : Node.of? schema = some node)
    (hexit : (exit, next) ∈ node.exits) (h : token ∈ referencesIn next) :
    token ∈ referencesIn schema := by
  obtain ⟨part, hpart, href⟩ := List.mem_filterMap.1 h
  have hnext := mem_cons_inside_of_exits List.mem_cons_self hnode hexit
  refine List.mem_filterMap.2 ⟨part, List.mem_cons_of_mem _ ?_, href⟩
  rcases List.mem_cons.1 hpart with rfl | hpart
  · exact hnext
  · exact Json.mem_inside_trans hpart hnext

end

namespace Document

/-- The names of the components that a schema needs: those to which references in it lead, and
those to which references in needed components lead. -/
inductive Needs (d : Document) (schema : Json) : String → Prop
  | here {token : String} (htoken : token ∈ referencesIn schema) :
      Needs d schema (componentName token)
  | further {name token : String} {component : Json} (h : Needs d schema name)
      (hcomponent : d.component? schemasSection name = some component)
      (htoken : token ∈ referencesIn component) : Needs d schema (componentName token)

/-- Two documents have the same answer for every name that a schema needs. -/
def AgreesFor (d d' : Document) (schema : Json) : Prop :=
  ∀ name, d.Needs schema name → d.component? schemasSection name = d'.component? schemasSection name

variable {d d' : Document} {schema next component : Json} {name token : String}

namespace Needs

lemma of_exits {node : Node} {exit : Exit} (hnode : Node.of? schema = some node)
    (hexit : (exit, next) ∈ node.exits) (h : d.Needs next name) : d.Needs schema name := by
  induction h with
  | here htoken => exact .here (mem_referencesIn_of_exits hnode hexit htoken)
  | further _ hcomponent htoken ih => exact .further ih hcomponent htoken

end Needs

/-! ## What the documents agree on -/

namespace AgreesFor

lemma lookup?_eq (h : d.AgreesFor d' schema)
    (href : reference? schemasSection schema = some token) :
    d.lookup? schemasSection token = d'.lookup? schemasSection token :=
  h _ (.here (mem_referencesIn href))

lemma of_exits {node : Node} {exit : Exit} (h : d.AgreesFor d' schema)
    (hnode : Node.of? schema = some node) (hexit : (exit, next) ∈ node.exits) :
    d.AgreesFor d' next :=
  fun name hname => h name (hname.of_exits hnode hexit)

/-- A reference is followed to the same component. -/
lemma follows {active : List String} {site : Site} (h : d.AgreesFor d' schema)
    (hfollows : d.Follows active site schema token component) :
    d'.Follows active site schema token component :=
  ⟨hfollows.reference, hfollows.fresh, h.lookup?_eq hfollows.reference ▸ hfollows.lookup,
    hfollows.away⟩

lemma opens {active : List String} {site : Site} (h : d.AgreesFor d' schema)
    (hopens : d.Opens active site schema) : d'.Opens active site schema := by
  intro token href
  rw [← h.lookup?_eq href]
  exact hopens token href

end AgreesFor

def ringSchema : Json := .object
  [("$ref", .string "#/components/schemas/Ring"),
    ("properties", .object [("stone", .object [("example", .string "opal")])])]

def rings : Document := .ofSchemas [("Ring", ringSchema)]

example : (bodyTable rings 8 (.component "Ring" ringSchema rfl)).examples
      = [("stone", .string "opal")]
    ∧ (bodyTable rings 8 (.value ringSchema)).examples = [] := ⟨rfl, rfl⟩

/-! Two editions of a document that describe invoices alike; currencies are described in neither. -/

end Document

end ApiSurvey.Schema
