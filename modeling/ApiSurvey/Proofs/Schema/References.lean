import ApiSurvey.Proofs.Schema.Site
import Mathlib.Logic.Relation

/-!
# The graph of references

A reference leads to a component, and from there to the references that stand in the component
where a walk follows them.  The references that a walk is expanding always lead, in this graph, to
every reference ahead of it; so where no chain of references runs into a cycle, no reference is
ever cut, and each one that leads to a component is followed.  Such chains are also short: a
component cannot appear on one twice.
-/

namespace ApiSurvey.Schema

namespace Document

open Relation

/-- The component that a schema refers to. -/
def target? (d : Document) (schema : Json) : Option Json :=
  (reference? schemasSection schema).bind (d.lookup? schemasSection)

/-- A reference to a component stands in a schema where a walk follows it: at the root, or below
it with no other such reference in between. -/
inductive Mentions (d : Document) : Json → String → Prop
  | root {schema target : Json} {token : String}
      (href : reference? schemasSection schema = some token)
      (hlookup : d.lookup? schemasSection token = some target) : Mentions d schema token
  | inside {schema next : Json} {node : Node} {exit : Exit} {token : String}
      (hnone : d.target? schema = none) (hnode : Node.of? schema = some node)
      (hexit : (exit, next) ∈ node.exits) (h : Mentions d next token) : Mentions d schema token

/-- One reference leads to another that stands in its component. -/
def LeadsTo (d : Document) (a b : String) : Prop :=
  ∃ target, d.lookup? schemasSection a = some target ∧ d.Mentions target b

/-- A chain of references from a schema comes to a reference. -/
def Refers (d : Document) (schema : Json) (token : String) : Prop :=
  ∃ first, d.Mentions schema first ∧ ReflTransGen d.LeadsTo first token

/-- No chain of references from a schema is cyclic. -/
def Acyclic (d : Document) (schema : Json) : Prop :=
  ∀ token, d.Refers schema token → ¬ TransGen d.LeadsTo token token

variable {d : Document} {schema next target : Json} {token : String}

lemma target?_eq_some_iff :
    d.target? schema = some target ↔ ∃ token, reference? schemasSection schema = some token
      ∧ d.lookup? schemasSection token = some target := by
  simp [target?, Option.bind_eq_some_iff]

lemma target?_ne_none (href : reference? schemasSection schema = some token)
    (hlookup : d.lookup? schemasSection token = some target) : d.target? schema ≠ none := by
  rw [target?_eq_some_iff.2 ⟨token, href, hlookup⟩]
  exact Option.some_ne_none target

lemma resolve_eq_getD_target? (d : Document) (schema : Json) :
    d.resolve schemasSection schema = (d.target? schema).getD schema := rfl

lemma Mentions.refers (h : d.Mentions schema token) : d.Refers schema token :=
  ⟨token, h, .refl⟩

lemma Mentions.lookup (h : d.Mentions schema token) :
    ∃ target, d.lookup? schemasSection token = some target := by
  induction h with
  | root _ hlookup => exact ⟨_, hlookup⟩
  | inside _ _ _ _ ih => exact ih

lemma Mentions.reference (h : d.Mentions schema token)
    (htarget : d.target? schema = some target) :
    reference? schemasSection schema = some token := by
  cases h with
  | root href _ => exact href
  | inside hnone _ _ _ =>
    rw [htarget] at hnone
    cases hnone

lemma Mentions.exits {node : Node} (h : d.Mentions schema token)
    (hnone : d.target? schema = none) (hnode : Node.of? schema = some node) :
    ∃ out ∈ node.exits, d.Mentions out.2 token := by
  cases h with
  | root href hlookup => exact absurd hnone (target?_ne_none href hlookup)
  | inside _ hnode' hexit hnext =>
    obtain rfl := Option.some.inj (hnode.symm.trans hnode')
    exact ⟨_, hexit, hnext⟩

lemma Refers.lookup (h : d.Refers schema token) :
    ∃ target, d.lookup? schemasSection token = some target := by
  obtain ⟨first, hfirst, hchain⟩ := h
  induction hchain with
  | refl => exact hfirst.lookup
  | tail _ hlast _ =>
    obtain ⟨target, -, htoken⟩ := hlast
    exact htoken.lookup

lemma Refers.below {node : Node} {exit : Exit} (hnone : d.target? schema = none)
    (hnode : Node.of? schema = some node) (hexit : (exit, next) ∈ node.exits)
    (h : d.Refers next token) : d.Refers schema token := by
  obtain ⟨first, hfirst, hchain⟩ := h
  exact ⟨first, .inside hnone hnode hexit hfirst, hchain⟩

lemma transGen_of_refers {a : String} (hlookup : d.lookup? schemasSection a = some target)
    (h : d.Refers target token) : TransGen d.LeadsTo a token := by
  obtain ⟨first, hfirst, hchain⟩ := h
  exact .head' ⟨target, hlookup, hfirst⟩ hchain

lemma Refers.of_target {a : String} (ha : d.Mentions schema a)
    (hlookup : d.lookup? schemasSection a = some target) (h : d.Refers target token) :
    d.Refers schema token :=
  ⟨a, ha, (transGen_of_refers hlookup h).to_reflTransGen⟩

lemma Acyclic.below {node : Node} {exit : Exit} (h : d.Acyclic schema)
    (hnone : d.target? schema = none) (hnode : Node.of? schema = some node)
    (hexit : (exit, next) ∈ node.exits) : d.Acyclic next :=
  fun token htoken => h token (htoken.below hnone hnode hexit)

lemma Acyclic.of_target {a : String} (h : d.Acyclic schema) (ha : d.Mentions schema a)
    (hlookup : d.lookup? schemasSection a = some target) : d.Acyclic target :=
  fun token htoken => h token (.of_target ha hlookup htoken)

/-! ## How long a chain can be -/

/-- The names of the component schemas. -/
def schemaNames (d : Document) : List String :=
  match (d.root.get? "components").bind (·.get? schemasSection) with
  | some (.object members) => members.map Prod.fst
  | _ => []

lemma mem_schemaNames_of_component? {name : String}
    (h : d.component? schemasSection name = some target) : name ∈ d.schemaNames := by
  simp only [component?, Option.bind_eq_bind, Option.bind_eq_some_iff] at h
  obtain ⟨components, hcomponents, schemas, hschemas, hname⟩ := h
  cases schemas with
  | object members =>
    obtain ⟨before, after, rfl, -⟩ := List.lookup_eq_some_iff.1 hname
    simp [schemaNames, hcomponents, hschemas]
  | _ => simp [Json.get?] at hname

/-- Every chain of references from the schema has at most so many of them. -/
def Settles (d : Document) : Nat → Json → Prop
  | 0, schema => ∀ token, ¬ d.Mentions schema token
  | n + 1, schema => ∀ token target, d.Mentions schema token →
      d.lookup? schemasSection token = some target → Settles d n target

lemma Settles.below {n : Nat} {node : Node} {exit : Exit} (h : d.Settles n schema)
    (hnone : d.target? schema = none) (hnode : Node.of? schema = some node)
    (hexit : (exit, next) ∈ node.exits) : d.Settles n next := by
  cases n with
  | zero => exact fun token htoken => h token (.inside hnone hnode hexit htoken)
  | succ n =>
    exact fun token target htoken hlookup =>
      h token target (.inside hnone hnode hexit htoken) hlookup

/-- A chain that is not cyclic takes each component from those that are left. -/
lemma settles_of_forall_mem (left : List String) (hacyclic : d.Acyclic schema)
    (hleft : ∀ token, d.Refers schema token → componentName token ∈ left) :
    d.Settles left.length schema := by
  generalize hn : left.length = n
  induction n generalizing left schema with
  | zero =>
    intro token htoken
    have hmem := hleft token htoken.refers
    simp [List.length_eq_zero_iff.1 hn] at hmem
  | succ n ih =>
    intro token target htoken hlookup
    have hmem := hleft token htoken.refers
    refine ih (left.erase (componentName token)) (hacyclic.of_target htoken hlookup) ?_ ?_
    · -- a later reference to the same component would close a cycle
      intro b hb
      have hrefers : d.Refers schema b := .of_target htoken hlookup hb
      refine (List.mem_erase_of_ne fun heq => ?_).2 (hleft b hrefers)
      have hsame : d.lookup? schemasSection b = some target := by
        rw [lookup?, heq]
        exact hlookup
      exact hacyclic b hrefers (transGen_of_refers hsame hb)
    · rw [List.length_erase_of_mem hmem, hn]
      omega

lemma Settles.acyclic {n : Nat} (h : d.Settles n schema) : d.Acyclic schema := by
  induction n generalizing schema with
  | zero =>
    rintro token ⟨first, hfirst, -⟩
    exact absurd hfirst (h first)
  | succ n ih =>
    rintro token ⟨first, hfirst, hchain⟩ hcycle
    -- the chain goes on past the first reference, if need be around the cycle
    have hround : TransGen d.LeadsTo first token := .trans_right hchain hcycle
    obtain ⟨b, ⟨target, hlookup, hb⟩, hrest⟩ := TransGen.head'_iff.1 hround
    exact ih (h first target hfirst hlookup) token ⟨b, hb, hrest⟩ hcycle

/-- **No chain of references is cyclic just if none is longer than the list of components.** -/
lemma acyclic_iff_settles : d.Acyclic schema ↔ d.Settles d.schemaNames.length schema := by
  refine ⟨fun h => settles_of_forall_mem d.schemaNames h fun token htoken => ?_, Settles.acyclic⟩
  obtain ⟨target, hlookup⟩ := htoken.lookup
  exact mem_schemaNames_of_component? hlookup

/-! ## The references that a walk is expanding -/

section

variable {active : List String} {site : Site}

/-- A schema that refers to no component is opened, since the references being expanded lead to
components. -/
lemma opens_of_no_target (hnone : d.target? schema = none)
    (hactive : ∀ token ∈ active, ∃ target, d.lookup? schemasSection token = some target) :
    d.Opens active site schema := by
  intro token href
  refine ⟨fun hmem => ?_, fun target hlookup => absurd hnone (target?_ne_none href hlookup)⟩
  obtain ⟨target, hlookup⟩ := hactive token hmem
  exact target?_ne_none href hlookup hnone

/-- A schema that is opened refers to no component, unless it refers to itself by a reference that
has not been followed. -/
lemma Opens.target?_eq_none (h : d.Opens active site schema)
    (hself : ∀ token, reference? schemasSection schema = some token →
      site = .component (componentName token) → token ∈ active) : d.target? schema = none := by
  by_contra hne
  obtain ⟨target, htarget⟩ := Option.ne_none_iff_exists'.1 hne
  obtain ⟨token, href, hlookup⟩ := target?_eq_some_iff.1 htarget
  obtain ⟨hfresh, hsite⟩ := h token href
  exact hfresh (hself token href (hsite target hlookup))

end

/-- A visit agrees with the graph: its schema stands at its site, and the references being expanded
lead to components, and on to all references ahead of the visit. -/
structure Agrees (d : Document) (v : Visit) : Prop where
  stands : d.Stands v.site v.schema
  lookup : ∀ token ∈ v.active, ∃ target, d.lookup? schemasSection token = some target
  ahead : ∀ a ∈ v.active, ∀ b, d.Mentions v.schema b → TransGen d.LeadsTo a b

lemma agrees_start (o : Origin d) (path : String) : d.Agrees (.start o path) := by
  refine ⟨o.stands, ?_, ?_⟩ <;> simp [Visit.start]

namespace Agrees

variable {v : Visit}

lemma hop (h : d.Agrees v) (hfollows : d.Follows v.active v.site v.schema token target) :
    d.Agrees (v.hop token target) := by
  refine ⟨hfollows.lookup, List.forall_mem_cons.2 ⟨⟨target, hfollows.lookup⟩, h.lookup⟩, ?_⟩
  intro a ha b hb
  have hstep : d.LeadsTo token b := ⟨target, hfollows.lookup, hb⟩
  rcases List.mem_cons.1 ha with rfl | ha
  · exact .single hstep
  · exact (h.ahead a ha token (.root hfollows.reference hfollows.lookup)).tail hstep

lemma wayOut (h : d.Agrees v) (hnone : d.target? v.schema = none) {node : Node}
    (hnode : Node.of? v.schema = some node) {out : Exit × Json} (hout : out ∈ node.exits) :
    d.Agrees (v.wayOut d node out).next :=
  ⟨h.stands.of_exits hnode hout, h.lookup, fun a ha b hb =>
    h.ahead a ha b (.inside hnone hnode hout hb)⟩

/-- Where no chain is cyclic, a reference to a component is followed. -/
lemma follows (h : d.Agrees v) (hacyclic : d.Acyclic v.schema)
    (href : reference? schemasSection v.schema = some token)
    (hlookup : d.lookup? schemasSection token = some target) :
    d.Follows v.active v.site v.schema token target := by
  have hmentions : d.Mentions v.schema token := .root href hlookup
  refine ⟨href, fun hactive => ?_, hlookup, fun hsite => ?_⟩
  · exact hacyclic token hmentions.refers (h.ahead token hactive token hmentions)
  · have hself : d.lookup? schemasSection token = some v.schema := by
      have hstands := h.stands
      rwa [hsite] at hstands
    exact hacyclic token hmentions.refers (.single ⟨v.schema, hself, hmentions⟩)

/-- A schema that refers to no component is opened. -/
lemma opens (h : d.Agrees v) (hnone : d.target? v.schema = none) :
    d.Opens v.active v.site v.schema :=
  opens_of_no_target hnone h.lookup

end Agrees

end Document

end ApiSurvey.Schema
