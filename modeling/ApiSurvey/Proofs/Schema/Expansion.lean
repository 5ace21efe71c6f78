import ApiSurvey.Proofs.Schema.Component

/-!
# The components being expanded

A walk remembers the references that it is expanding as they are written.  They are all different,
and every one leads to a component; but a name with a tilde can be written in several ways, and
then two of them may lead to the same component.

So a walk expands a component within itself exactly where a chain of different references comes to
the component twice.  Where there is no such chain, the components being expanded are different,
and a reference to any of them is cut.
-/

namespace ApiSurvey.Schema

/-! ## References being expanded -/

/-- What holds of the references being expanded on any walk: they are different, and they lead to
components. -/
structure Visit.Expands (d : Document) (v : Visit) : Prop where
  nodup : v.active.Nodup
  lookup : ∀ token ∈ v.active, ∃ target, d.lookup? schemasSection token = some target

namespace Visit.Expands

variable {d : Document} {v u : Visit} {n : Nat} {token : String} {target : Json}

lemma start (o : Origin d) (path : String) : (Visit.start o path).Expands d := by
  refine ⟨?_, ?_⟩ <;> simp [Visit.start]

lemma hop (h : v.Expands d) (hfollows : d.Follows v.active v.site v.schema token target) :
    (v.hop token target).Expands d where
  nodup := List.nodup_cons.2 ⟨hfollows.fresh, h.nodup⟩
  lookup := List.forall_mem_cons.2 ⟨⟨target, hfollows.lookup⟩, h.lookup⟩

lemma wayOut (h : v.Expands d) (node : Node) (out : Exit × Json) :
    (v.wayOut d node out).next.Expands d :=
  ⟨h.nodup, h.lookup⟩

lemma of_reaches (h : v.Expands d) (hu : Reaches d v n u) : u.Expands d := by
  induction hu using Reaches.step_induction_on with
  | refl => exact h
  | hop _ hfollows ih => exact ih.hop hfollows
  | @wayOut _ _ node out _ _ _ _ ih => exact ih.wayOut node out

/-- A schema that refers to no component is opened wherever a walk comes to it. -/
lemma opens (h : v.Expands d) (hnone : d.target? v.schema = none) :
    d.Opens v.active v.site v.schema :=
  Document.opens_of_no_target hnone h.lookup

/-- A walk comes to every reference that stands in the schema at a visit, with nothing more being
expanded. -/
lemma reaches_reference {schema : Json} (h : d.Mentions schema token) (hv : v.Expands d)
    (hschema : v.schema = schema) :
    ∃ n u, Reaches d v n u ∧ u.active = v.active
      ∧ reference? schemasSection u.schema = some token := by
  induction h generalizing v with
  | root href _ => exact ⟨0, v, .refl, rfl, hschema ▸ href⟩
  | @inside schema next node exit token hnone hnode hexit _ ih =>
    subst hschema
    obtain ⟨n, u, hu, hactive, href⟩ := ih (hv.wayOut node (exit, next)) rfl
    have hfirst : Reaches d v 1 (v.wayOut d node (exit, next)).next :=
      Reaches.refl.wayOut (hv.opens hnone) hnode hexit
    exact ⟨1 + n, u, hfirst.trans hu, hactive, href⟩

end Visit.Expands

/-! ## Chains of references -/

namespace Document

/-- The schema at the end of a chain of references. -/
def chainEnd? (d : Document) (root : Json) : List String → Option Json
  | [] => some root
  | token :: _ => d.lookup? schemasSection token

/-- A chain of references from a schema, the last one first: each stands where the chain before it
ends. -/
inductive Chain (d : Document) (root : Json) : List String → Prop
  | nil : Chain d root []
  | cons {chain : List String} {last : Json} {token : String} (h : Chain d root chain)
      (hend : d.chainEnd? root chain = some last) (htoken : d.Mentions last token) :
      Chain d root (token :: chain)

/-- No chain of different references from a schema comes to a component twice. -/
def SpelledAlike (d : Document) (root : Json) : Prop :=
  ∀ chain, d.Chain root chain → chain.Nodup → (chain.map componentName).Nodup

variable {d : Document} {root : Json} {chain : List String} {token : String}

lemma Chain.refers (h : d.Chain root chain) (htoken : token ∈ chain) : d.Refers root token := by
  induction h generalizing token with
  | nil => simp at htoken
  | @cons chain last b _ hend hb ih =>
    rcases List.mem_cons.1 htoken with rfl | htoken
    · cases chain with
      | nil =>
        obtain rfl : root = last := Option.some.inj hend
        exact hb.refers
      | cons a chain =>
        obtain ⟨first, hfirst, hchain⟩ := ih List.mem_cons_self
        exact ⟨first, hfirst, hchain.tail ⟨last, hend, hb⟩⟩
    · exact ih htoken

/-- Chains do not come to a component twice if every reference within reach is written with
escapes. -/
lemma spelledAlike_of_written
    (h : ∀ token, d.Refers root token → writtenName (componentName token) = token) :
    d.SpelledAlike root := by
  intro chain hchain hnodup
  refine hnodup.map_on fun a ha b hb hab => ?_
  rw [← h a (hchain.refers ha), hab, h b (hchain.refers hb)]

/-- A visit agrees with the chains of references: what is being expanded is one, and the references
ahead stand where it ends. -/
structure Chained (d : Document) (root : Json) (v : Visit) : Prop where
  expands : v.Expands d
  led : v.Led
  chain : d.Chain root v.active
  ahead : ∃ last, d.chainEnd? root v.active = some last
    ∧ ∀ token, d.Mentions v.schema token → d.Mentions last token

end Document

/-! ## Components being expanded -/

/-- The components being expanded at a visit are different, and a reference to one of them is
cut. -/
structure Visit.Guarded (d : Document) (v : Visit) : Prop where
  distinct : (v.active.map componentName).Nodup
  cut : ∀ token, reference? schemasSection v.schema = some token →
    componentName token ∈ v.active.map componentName → v.outlook d = .cut token

namespace Document

variable {d : Document} {root target : Json} {v u : Visit} {token : String} {n : Nat}

lemma chained_start {o : Origin d} (h : ¬ o.Loops) (path : String) :
    d.Chained o.schema (.start o path) where
  expands := .start o path
  led := .start h path
  chain := .nil
  ahead := ⟨o.schema, rfl, fun _ h => h⟩

namespace Chained

/-- The chain goes on with a reference at the visit that leads to a component. -/
lemma chain_cons (h : d.Chained root v) (href : reference? schemasSection v.schema = some token)
    (hlookup : d.lookup? schemasSection token = some target) :
    d.Chain root (token :: v.active) := by
  obtain ⟨last, hend, hahead⟩ := h.ahead
  exact .cons h.chain hend (hahead token (.root href hlookup))

/-- A reference to a component that is being expanded is itself being expanded. -/
lemma mem_active (h : d.Chained root v) (halike : d.SpelledAlike root)
    (href : reference? schemasSection v.schema = some token)
    (hname : componentName token ∈ v.active.map componentName) : token ∈ v.active := by
  by_contra hfresh
  obtain ⟨other, hother, hsame⟩ := List.mem_map.1 hname
  obtain ⟨target, hlookup⟩ := h.expands.lookup other hother
  rw [lookup?, hsame] at hlookup
  -- the chain that goes on with the reference comes to the component once more
  have hnodup := halike _ (h.chain_cons href hlookup)
    (List.nodup_cons.2 ⟨hfresh, h.expands.nodup⟩)
  exact (List.nodup_cons.1 hnodup).1 hname

lemma guarded (h : d.Chained root v) (halike : d.SpelledAlike root) : v.Guarded d where
  distinct := halike _ h.chain h.expands.nodup
  cut := fun _ href hname => Visit.outlook_of_cut href (h.mem_active halike href hname)

lemma target?_eq_none (h : d.Chained root v) (halike : d.SpelledAlike root)
    (hopens : d.Opens v.active v.site v.schema) : d.target? v.schema = none :=
  hopens.target?_eq_none fun _ href hsite =>
    h.mem_active halike href (h.led.mem_expanded href hsite)

lemma hop (h : d.Chained root v) (hfollows : d.Follows v.active v.site v.schema token target) :
    d.Chained root (v.hop token target) where
  expands := h.expands.hop hfollows
  led := .hop ..
  chain := h.chain_cons hfollows.reference hfollows.lookup
  ahead := ⟨target, hfollows.lookup, fun _ h => h⟩

lemma wayOut {node : Node} {out : Exit × Json} (h : d.Chained root v)
    (halike : d.SpelledAlike root) (hopens : d.Opens v.active v.site v.schema)
    (hnode : Node.of? v.schema = some node) (hout : out ∈ node.exits) :
    d.Chained root (v.wayOut d node out).next where
  expands := h.expands.wayOut node out
  led := h.led.wayOut hnode hout
  chain := h.chain
  ahead := by
    obtain ⟨last, hend, hahead⟩ := h.ahead
    have hnone := h.target?_eq_none halike hopens
    exact ⟨last, hend, fun b hb => hahead b (.inside hnone hnode hout hb)⟩

lemma of_reaches (h : d.Chained root v) (halike : d.SpelledAlike root) (hu : Reaches d v n u) :
    d.Chained root u := by
  induction hu using Reaches.step_induction_on with
  | refl => exact h
  | hop _ hfollows ih => exact ih.hop hfollows
  | wayOut _ hopens hnode hout ih => exact ih.wayOut halike hopens hnode hout

end Chained

/-! ## Chains that a walk follows -/

/-- Where references to components being expanded are cut, a walk follows every chain of different
references to its end. -/
lemma Chain.reaches {o : Origin d} {path : String} {chain : List String}
    (h : d.Chain o.schema chain) (hloops : ¬ o.Loops) (hnodup : chain.Nodup)
    (hguarded : ∀ n v, Reaches d (.start o path) n v → v.Guarded d) :
    ∃ n v, Reaches d (.start o path) n v ∧ v.active = chain
      ∧ d.chainEnd? o.schema chain = some v.schema := by
  induction h with
  | nil => exact ⟨0, _, .refl, rfl, rfl⟩
  | @cons chain last token _ hend htoken ih =>
    obtain ⟨hfresh, hnodup⟩ := List.nodup_cons.1 hnodup
    obtain ⟨n, v, hv, rfl, hschema⟩ := ih hnodup
    obtain rfl := Option.some.inj (hend.symm.trans hschema)
    have hexpands := (Visit.Expands.start o path).of_reaches hv
    obtain ⟨m, u, hu, hactive, href⟩ := hexpands.reaches_reference htoken rfl
    have hreaches := hv.trans hu
    obtain ⟨target, hlookup⟩ := htoken.lookup
    -- no other reference to the component is being expanded, since this one is not
    have hname : componentName token ∉ u.active.map componentName := by
      intro hname
      have hcut := (hguarded _ u hreaches).cut token href hname
      exact hfresh (hactive ▸ (Visit.outlook_eq_cut_iff.1 hcut).2)
    have haway : u.site ≠ .component (componentName token) := fun hsite =>
      hname (((Visit.Led.start hloops path).of_reaches hreaches).mem_expanded href hsite)
    have hfollows : d.Follows u.active u.site u.schema token target :=
      ⟨href, hactive ▸ hfresh, hlookup, haway⟩
    refine ⟨_, u.hop token target, hreaches.hop hfollows, ?_, hlookup⟩
    rw [Visit.hop, hactive]

/-- A reference that is cut within the depth limit is noted in the table. -/
lemma mem_truncated_of_cut {o : Origin d} {path : String} {maxDepth : Nat}
    (hv : Reaches d (.start o path) n v) (hn : n ≤ maxDepth) (hcut : v.outlook d = .cut token) :
    ⟨v.path, .cycle token⟩ ∈ (FieldTable.empty.walk d maxDepth o path).truncated := by
  have hfound : Finding.truncated ⟨v.path, .cycle token⟩ ∈ v.found d := by
    simp [Visit.found, hcut]
  exact mem_truncated_walk_iff.2 (mem_findings_iff.2 (Or.inl ⟨n, v, by omega, hv, hfound⟩))

/-- **The components being expanded are different at every place of a walk, and references to them
are cut, exactly if no chain of different references comes to a component twice**; there is no such
chain where all references are written with escapes.  (A walk that begins at a component which
refers to itself opens it and expands nothing, so it does not follow this chain.)  The references
being expanded are different in any case, and those that are cut are noted. -/
theorem guarded_iff_spelledAlike (d : Document) (o : Origin d) (path : String) :
    (¬ o.Loops →
        ((∀ n v, Reaches d (.start o path) n v → v.Guarded d) ↔ d.SpelledAlike o.schema))
      ∧ ((∀ token, d.Refers o.schema token → writtenName (componentName token) = token) →
        d.SpelledAlike o.schema)
      ∧ (∀ n v, Reaches d (.start o path) n v → v.active.Nodup
        ∧ ∀ token ∈ v.active, ∃ target, d.lookup? schemasSection token = some target)
      ∧ ∀ n v maxDepth token, Reaches d (.start o path) n v → n ≤ maxDepth →
        v.outlook d = .cut token →
        ⟨v.path, .cycle token⟩ ∈ (FieldTable.empty.walk d maxDepth o path).truncated := by
  refine ⟨fun hloops => ⟨fun hguarded chain hchain hnodup => ?_, fun halike n v hv => ?_⟩,
    spelledAlike_of_written, fun n v hv => ?_, fun n v maxDepth token => mem_truncated_of_cut⟩
  · obtain ⟨n, v, hv, rfl, -⟩ := hchain.reaches hloops hnodup hguarded
    exact (hguarded n v hv).distinct
  · exact ((chained_start hloops path).of_reaches halike hv).guarded halike
  · have hexpands := (Visit.Expands.start o path).of_reaches hv
    exact ⟨hexpands.nodup, hexpands.lookup⟩

/-! A genre with a tilde in its name, which it does not escape where it refers to itself. -/

def genreReference : Json := .object [("$ref", .string "#/components/schemas/rock~roll")]

def genreSchema : Json := .object [("properties", .object [("parent", genreReference)])]

def genres : Document := .ofSchemas [("rock~roll", genreSchema)]

/-- The genre is expanded once more within itself, and cut only there. -/
theorem truncated_componentTable?_genres :
    (componentTable? genres defaultMaxDepth "rock~roll").map FieldTable.truncated
        = some [⟨"parent.parent", .cycle "rock~roll"⟩]
      ∧ ∃ n v, Reaches genres (.start (.value (schemaReference "rock~roll") : Origin genres) "") n v
        ∧ v.active.map componentName = ["rock~roll", "rock~roll"] := by
  have hroot : genres.Follows [] .elsewhere (schemaReference "rock~roll") "rock~0roll"
      genreSchema := ⟨rfl, by decide, rfl, nofun⟩
  have hgenre := Reaches.hop
    (u := .start (.value (schemaReference "rock~roll") : Origin genres) "") .refl hroot
  have hopens : genres.Opens ["rock~0roll"] (.component "rock~roll") genreSchema := by
    rintro token ⟨⟩
  have hparent := hgenre.wayOut hopens rfl List.mem_cons_self
  have hself : genres.Follows ["rock~0roll"] .elsewhere genreReference "rock~roll" genreSchema :=
    ⟨rfl, by decide, rfl, nofun⟩
  exact ⟨rfl, 3, _, hparent.hop hself, rfl⟩

end Document

end ApiSurvey.Schema
