import ApiSurvey.Proofs.Schema.Component
import ApiSurvey.Proofs.Schema.Recorded
import ApiSurvey.Proofs.Schema.Site
import Mathlib.Data.List.Flatten

/-!
# What the required names decide

The names that a schema requires are carried along a walk and looked at for one purpose only: to
find that a property is required.  So two walks from schemas that differ in nothing but the names
they require themselves go the same way and find the same of every field, apart from whether it is
required.  More names make more paths required, and no other ones less.  A schema that is left
neither for properties nor for a schema of its `allOf` keeps its names to itself.

The schemas may also be components that take each other's place in a document, which a walk may come
back to.  So two documents are followed here, whose components differ in the same way.
-/

namespace ApiSurvey.Schema

/-! ## Schemas that differ in the names they require -/

/-- The schemas are the same, or objects with the same members except under `required`, and `rel`
holds of the two. -/
inductive AlikeButRequired (rel : Node → Node → Prop) : Json → Json → Prop
  | refl (schema : Json) : AlikeButRequired rel schema schema
  | object {n n' : Node} (h : ∀ key, key ≠ "required" → n.get? key = n'.get? key)
      (hrel : rel n n') : AlikeButRequired rel (.object n.members) (.object n'.members)

/-- The documents have the same component schemas, or such as differ in the names they require. -/
def Document.AlikeButRequired (rel : Node → Node → Prop) (d d' : Document) : Prop :=
  ∀ name, Option.Rel (Schema.AlikeButRequired rel) (d.component? schemasSection name)
    (d'.component? schemasSection name)

namespace Node

variable {n n' : Node}

/-- What a walk reads of a node, except for the names that it requires, comes from its other
members. -/
lemma facets_eq (h : ∀ key, key ≠ "required" → n.get? key = n'.get? key) :
    n.facets = n'.facets := by
  have hprops : n.get? "properties" = n'.get? "properties" := h _ (by decide)
  have harray : n.isArray = n'.isArray := by
    have htype : n.get? "type" = n'.get? "type" := h _ (by decide)
    rw [isArray, htype, isArray]
  have hitems : n.get? "items" = n'.get? "items" := h _ (by decide)
  have hall : n.get? "allOf" = n'.get? "allOf" := h _ (by decide)
  have hone : n.get? "oneOf" = n'.get? "oneOf" := h _ (by decide)
  have hany : n.get? "anyOf" = n'.get? "anyOf" := h _ (by decide)
  simp only [facets, list?, hprops, harray, hitems, hall, hone, hany]

lemma exits_eq (h : ∀ key, key ≠ "required" → n.get? key = n'.get? key) :
    n.exits = n'.exits := by
  rw [exits, facets_eq h, exits]

lemma valueFindings_eq (h : ∀ key, key ≠ "required" → n.get? key = n'.get? key) (path : String) :
    valueFindings path n = valueFindings path n' := by
  have hexample : n.get? "example" = n'.get? "example" := h _ (by decide)
  have hexamples : n.get? "examples" = n'.get? "examples" := h _ (by decide)
  have henum : n.get? "enum" = n'.get? "enum" := h _ (by decide)
  simp only [valueFindings, example?, enum?, list?, hexample, hexamples, henum]

lemma isReadOnly_eq (h : ∀ key, key ≠ "required" → n.get? key = n'.get? key) :
    n.isReadOnly = n'.isReadOnly := by
  have hreadOnly : n.get? "readOnly" = n'.get? "readOnly" := h _ (by decide)
  rw [isReadOnly, hreadOnly, isReadOnly]

end Node

section

variable {rel : Node → Node → Prop} {schema schema' : Json}

namespace AlikeButRequired

lemma reference?_eq (h : AlikeButRequired rel schema schema') (sectionName : String) :
    reference? sectionName schema = reference? sectionName schema' := by
  cases h with
  | refl => rfl
  | @object n n' h =>
    have href : n.members.lookup "$ref" = n'.members.lookup "$ref" := h "$ref" (by decide)
    simp only [reference?, Json.get?, href]

/-- Neither schema has a node, or both have, with the same schemas below and the same values. -/
lemma node? (h : AlikeButRequired rel schema schema') :
    (Node.of? schema = none ∧ Node.of? schema' = none)
      ∨ ∃ n n', Node.of? schema = some n ∧ Node.of? schema' = some n' ∧ (n = n' ∨ rel n n')
        ∧ n.exits = n'.exits ∧ n.isReadOnly = n'.isReadOnly
        ∧ ∀ path, valueFindings path n = valueFindings path n' := by
  cases h with
  | refl =>
    cases hnode : Node.of? schema with
    | none => exact Or.inl ⟨rfl, rfl⟩
    | some n => exact Or.inr ⟨n, n, rfl, rfl, Or.inl rfl, rfl, rfl, fun _ => rfl⟩
  | @object n n' h hrel =>
    exact Or.inr ⟨n, n', rfl, rfl, Or.inr hrel, Node.exits_eq h, Node.isReadOnly_eq h,
      Node.valueFindings_eq h⟩

end AlikeButRequired

namespace Document.AlikeButRequired

variable {d d' : Document} {active : List String} {site : Site} {token : String} {target : Json}

lemma refl (rel : Node → Node → Prop) (d : Document) : d.AlikeButRequired rel d := by
  intro name
  cases d.component? schemasSection name with
  | none => exact .none
  | some component => exact .some (.refl component)

/-- What is missing from one document is missing from the other, and what is found in one has its
counterpart in the other. -/
lemma lookup?_cases (h : d.AlikeButRequired rel d') (token : String) :
    (d.lookup? schemasSection token = none ∧ d'.lookup? schemasSection token = none)
      ∨ ∃ target target', d.lookup? schemasSection token = some target
        ∧ d'.lookup? schemasSection token = some target'
        ∧ Schema.AlikeButRequired rel target target' := by
  have hcomponents := h (componentName token)
  rw [lookup?, lookup?]
  generalize d.component? schemasSection (componentName token) = component at hcomponents
  generalize d'.component? schemasSection (componentName token) = component' at hcomponents
  cases hcomponents with
  | none => exact Or.inl ⟨rfl, rfl⟩
  | some h => exact Or.inr ⟨_, _, rfl, rfl, h⟩

lemma resolve (h : d.AlikeButRequired rel d') (schema : Json) :
    Schema.AlikeButRequired rel (d.resolve schemasSection schema)
      (d'.resolve schemasSection schema) := by
  rw [Document.resolve, Document.resolve]
  cases reference? schemasSection schema with
  | none => exact .refl schema
  | some token =>
    rcases h.lookup?_cases token with ⟨hnone, hnone'⟩ | ⟨target, target', htarget, htarget', halike⟩
    · rw [Option.bind_some, Option.bind_some, hnone, hnone']
      exact .refl schema
    · rw [Option.bind_some, Option.bind_some, htarget, htarget']
      exact halike

/-- Where one walk follows a reference, the other one follows it to the counterpart. -/
lemma follows (hdocs : d.AlikeButRequired rel d') (h : Schema.AlikeButRequired rel schema schema')
    (hfollows : d.Follows active site schema token target) :
    ∃ target', d'.Follows active site schema' token target'
      ∧ Schema.AlikeButRequired rel target target' := by
  rcases hdocs.lookup?_cases token with ⟨hnone, -⟩ | ⟨_, target', htarget, htarget', halike⟩
  · cases hfollows.lookup.symm.trans hnone
  · obtain rfl := Option.some.inj (hfollows.lookup.symm.trans htarget)
    have href' := (h.reference?_eq schemasSection).symm.trans hfollows.reference
    exact ⟨target', ⟨href', hfollows.fresh, htarget', hfollows.away⟩, halike⟩

lemma opens (hdocs : d.AlikeButRequired rel d') (h : Schema.AlikeButRequired rel schema schema')
    (hopens : d.Opens active site schema) : d'.Opens active site schema' := by
  intro token href'
  obtain ⟨hfresh, hsite⟩ := hopens token ((h.reference?_eq schemasSection).trans href')
  refine ⟨hfresh, fun target' hlookup' => ?_⟩
  rcases hdocs.lookup?_cases token with ⟨-, hnone'⟩ | ⟨target, _, htarget, -, -⟩
  · cases hlookup'.symm.trans hnone'
  · exact hsite target htarget

/-- What is found of a property, apart from whether it is required, is found of it in both. -/
lemma propertyFindings_eq (h : d.AlikeButRequired rel d') (path key : String) (schema : Json) :
    propertyFindings d [] path key schema = propertyFindings d' [] path key schema := by
  simp only [propertyFindings]
  rcases (h.resolve schema).node? with
    ⟨hnone, hnone'⟩ | ⟨n, n', hnode, hnode', -, -, hreadOnly, hvalues⟩
  · rw [hnone, hnone']
  · rw [hnode, hnode']
    simp only [hreadOnly, hvalues]

end Document.AlikeButRequired

end

/-! ## The same visit with other names -/

/-- Whether a path is found to be required. -/
def Finding.isRequired : Finding → Bool
  | .required _ => true
  | _ => false

section

variable {rel : Node → Node → Prop} {d d' : Document} {v : Visit} {limit levels : Nat}
  {schema' : Json} {names names' : List String}

end

namespace FieldTable

/-- The tables agree on everything but the required paths; the required paths of the one are among
those of the other if the names that the first node lists are among those of the other; and the
tables agree on these too if the first node has neither properties nor an `allOf`. -/
structure AlikeButRequired (n n' : Node) (t t' : FieldTable) : Prop where
  examples : t.examples = t'.examples
  enums : t.enums = t'.enums
  readOnly : t.readOnly = t'.readOnly
  truncated : t.truncated = t'.truncated
  mem_required : (∀ name, n.Lists name → n'.Lists name) → ∀ p ∈ t.required, p ∈ t'.required
  required : (∀ schemas, n.get? "properties" ≠ some (.object schemas)) →
    (∀ branches, n.get? "allOf" ≠ some (.array branches)) → t.required = t'.required

end FieldTable

section

variable {d d' : Document} {n n' : Node}

end

/-! A ticket whose schema requires some of its fields, and a place or a row besides.  It refers to
the component of its name, which is the ticket itself in a document that has one, and is missing in
a document that has none. -/

end ApiSurvey.Schema
