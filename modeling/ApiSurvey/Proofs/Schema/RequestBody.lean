import ApiSurvey.Proofs.Schema.Operations

/-!
# The schema of a request body

The schema of a request body is found step by step: the path item, its first entry for the method,
the body, which may be given by a reference, and of the media types of the body the one that is
asked for or else a preferred one.  What is found this way belongs to an operation that the document
lists, since a key that equals a method up to case is one that is listed.  And where no media type
is asked for, the answer is as if the preferred one had been.
-/

namespace ApiSurvey.Schema

open Text

/-- The first element of a list with a property. -/
def FirstWith {α : Type} (p : α → Prop) (as : List α) (a : α) : Prop :=
  ∃ before after, as = before ++ a :: after ∧ p a ∧ ∀ b ∈ before, ¬ p b

lemma find?_eq_some_iff_firstWith {α : Type} {p : α → Prop} {q : α → Bool} {as : List α} {a : α}
    (hq : ∀ a, q a = true ↔ p a) : as.find? q = some a ↔ FirstWith p as a := by
  rw [List.find?_eq_some_iff_append]
  constructor
  · rintro ⟨ha, before, after, has, hbefore⟩
    exact ⟨before, after, has, (hq a).1 ha, fun b hb => by simpa [← hq b] using hbefore b hb⟩
  · rintro ⟨before, after, has, ha, hbefore⟩
    exact ⟨(hq a).2 ha, before, after, has, fun b hb => by simpa [← hq b] using hbefore b hb⟩

/-! ## Media types -/

/-- The media type that is preferred: the first that speaks of JSON, else the first. -/
inductive Preferred (content : Json.Members) : String → Prop
  | json {type : String}
      (h : FirstWith (fun type => "json".toList <:+: type.toList) (content.map Prod.fst) type) :
      Preferred content type
  | first {type : String} {types : List String} (hcontent : content.map Prod.fst = type :: types)
      (hnone : ∀ type ∈ content.map Prod.fst, ¬ "json".toList <:+: type.toList) :
      Preferred content type

/-- The media type that decides: the one asked for, else a preferred one. -/
def Decides (content : Json.Members) (contentType : Option String) (type : String) : Prop :=
  match contentType with
  | some asked => type = asked
  | none => Preferred content type

section

variable {content : Json.Members} {type : String} {media : Json}

/-- What is found by a property of its key is found by its key: an entry with the same key in front
of it would have been found first. -/
lemma lookup_of_find? (q : String → Bool)
    (h : (content.find? fun entry => q entry.1) = some (type, media)) :
    content.lookup type = some media := by
  obtain ⟨htype, before, after, hcontent, hbefore⟩ := List.find?_eq_some_iff_append.1 h
  refine List.lookup_eq_some_iff.2 ⟨before, after, hcontent, fun entry hentry => ?_⟩
  have hentry' : q entry.1 = false := by simpa using hbefore entry hentry
  refine bne_iff_ne.2 fun heq => ?_
  rw [← heq] at hentry'
  exact absurd htype (Bool.eq_false_iff.1 hentry')

/-- Whether the name of a media type speaks of JSON. -/
def speaksOfJson (type : String) : Bool :=
  occurs "json".toList type.toList

lemma selectMedia?_none : Document.selectMedia? content none
    = ((content.find? fun entry => speaksOfJson entry.1).or content.head?).map Prod.snd :=
  rfl

lemma find?_speaksOfJson_eq_some_iff : (content.map Prod.fst).find? speaksOfJson = some type
    ↔ FirstWith (fun type => "json".toList <:+: type.toList) (content.map Prod.fst) type :=
  find?_eq_some_iff_firstWith fun _ => occurs_iff

/-- Where no media type is asked for, the preferred one is taken. -/
lemma selectMedia?_eq_lookup (h : Preferred content type) :
    Document.selectMedia? content none = content.lookup type := by
  rw [selectMedia?_none]
  cases h with
  | json hfirst =>
    rw [← find?_speaksOfJson_eq_some_iff, List.find?_map, Option.map_eq_some_iff] at hfirst
    obtain ⟨⟨type, media⟩, hfind, rfl⟩ := hfirst
    have hfind' : (content.find? fun entry => speaksOfJson entry.1) = some (type, media) := hfind
    rw [hfind', lookup_of_find? speaksOfJson hfind']
    rfl
  | first hcontent hnone =>
    have hfind : (content.find? fun entry => speaksOfJson entry.1) = none := by
      refine List.find?_eq_none.2 fun entry hentry => ?_
      exact mt occurs_iff.1 (hnone entry.1 (List.mem_map_of_mem hentry))
    rw [hfind]
    cases content with
    | nil => cases hcontent
    | cons entry content =>
      obtain ⟨rfl, -⟩ := List.cons.inj hcontent
      exact List.lookup_cons_self.symm

lemma exists_preferred (h : content ≠ []) : ∃ type, Preferred content type := by
  by_cases hnone : ∀ type ∈ content.map Prod.fst, ¬ "json".toList <:+: type.toList
  · obtain ⟨entry, rest, rfl⟩ := List.exists_cons_of_ne_nil h
    exact ⟨entry.1, .first rfl hnone⟩
  · push Not at hnone
    obtain ⟨type, htype, hjson⟩ := hnone
    have hsome : ((content.map Prod.fst).find? speaksOfJson).isSome :=
      List.find?_isSome.2 ⟨type, htype, occurs_iff.2 hjson⟩
    obtain ⟨first, hfirst⟩ := Option.isSome_iff_exists.1 hsome
    exact ⟨first, .json (find?_speaksOfJson_eq_some_iff.1 hfirst)⟩

/-- The description that is taken is the one of the media type that decides. -/
lemma selectMedia?_eq_some_iff {contentType : Option String} :
    Document.selectMedia? content contentType = some media
      ↔ ∃ type, Decides content contentType type ∧ content.lookup type = some media := by
  cases contentType with
  | some asked => exact ⟨fun h => ⟨asked, rfl, h⟩, fun ⟨_, rfl, h⟩ => h⟩
  | none =>
    constructor
    · intro h
      have hne : content ≠ [] := by
        rintro rfl
        cases h
      obtain ⟨type, htype⟩ := exists_preferred hne
      exact ⟨type, htype, selectMedia?_eq_lookup htype ▸ h⟩
    · rintro ⟨type, htype, hlookup⟩
      rw [selectMedia?_eq_lookup htype, hlookup]

end

namespace Document

/-- What a node stands for within a section: the component that it refers to, if there is one, else
itself.  A component that is found is taken as it is, even if it is a reference again. -/
inductive StandsFor (d : Document) (sectionName : String) (node : Json) : Json → Prop
  | component {token : String} {target : Json} (href : reference? sectionName node = some token)
      (hlookup : d.component? sectionName (componentName token) = some target) :
      StandsFor d sectionName node target
  | itself (hnone : ∀ token, reference? sectionName node = some token →
      d.component? sectionName (componentName token) = none) : StandsFor d sectionName node node

/-- The media types of the request body of an operation: those of the body that the first entry of
the path item gives whose key is the method, in letters of either case. -/
inductive HasContent (d : Document) (o : Operation) : Json.Members → Prop
  | intro {paths description node body : Json} {item content : Json.Members} {key : String}
      (hpaths : d.root.get? "paths" = some paths)
      (hitem : paths.get? o.path = some (.object item))
      (hfirst : FirstWith (fun entry => eqAsciiCase entry.1.toList o.method.toList = true) item
        (key, description))
      (hnode : description.get? "requestBody" = some node)
      (hbody : d.StandsFor requestBodiesSection node body)
      (hcontent : body.get? "content" = some (.object content)) : HasContent d o content

variable {d : Document} {o : Operation} {sectionName : String} {node body : Json}
  {content : Json.Members}

lemma resolve_eq_iff : d.resolve sectionName node = body ↔ d.StandsFor sectionName node body := by
  rw [resolve]
  cases htarget : (reference? sectionName node).bind (d.lookup? sectionName) with
  | none =>
    have hnone := Option.bind_eq_none_iff.1 htarget
    constructor
    · rintro rfl
      exact .itself hnone
    · rintro (⟨href, hlookup⟩ | -)
      · cases (hnone _ href).symm.trans hlookup
      · rfl
  | some target =>
    obtain ⟨token, href, hlookup⟩ := Option.bind_eq_some_iff.1 htarget
    constructor
    · rintro rfl
      exact .component href hlookup
    · rintro (⟨href', hlookup'⟩ | hnone)
      · obtain rfl := Option.some.inj (href.symm.trans href')
        exact Option.some.inj (hlookup.symm.trans hlookup')
      · cases (hnone token href).symm.trans hlookup

/-- The media types of the request body of an operation, found in one go. -/
def bodyContent? (d : Document) (o : Operation) : Option Json.Members := do
  let description ← d.operation? o
  let node ← description.get? "requestBody"
  let content ← (d.resolve requestBodiesSection node).get? "content"
  content.members?

lemma requestBody?_eq_bind (contentType : Option String) : d.requestBody? o contentType
    = (d.bodyContent? o).bind fun content =>
        (selectMedia? content contentType).bind (·.get? "schema") := by
  simp [requestBody?, bodyContent?, Option.bind_assoc]

lemma operation?_eq_some_iff {description : Json} : d.operation? o = some description
    ↔ ∃ paths item key, d.root.get? "paths" = some paths ∧ paths.get? o.path = some (.object item)
      ∧ FirstWith (fun entry => eqAsciiCase entry.1.toList o.method.toList = true) item
        (key, description) := by
  simp only [operation?, Option.bind_eq_bind, Option.bind_eq_some_iff, Json.members?_eq_some_iff,
    Option.map_eq_some_iff]
  constructor
  · rintro ⟨paths, hpaths, -, hitem, item, rfl, ⟨key, description⟩, hfind, rfl⟩
    exact ⟨paths, item, key, hpaths, hitem, (find?_eq_some_iff_firstWith fun _ => .rfl).1 hfind⟩
  · rintro ⟨paths, item, key, hpaths, hitem, hfirst⟩
    exact ⟨paths, hpaths, _, hitem, item, rfl, _,
      (find?_eq_some_iff_firstWith fun _ => .rfl).2 hfirst, rfl⟩

lemma bodyContent?_eq_some_iff : d.bodyContent? o = some content ↔ d.HasContent o content := by
  simp only [bodyContent?, Option.bind_eq_bind, Option.bind_eq_some_iff,
    Json.members?_eq_some_iff, operation?_eq_some_iff]
  constructor
  · rintro ⟨description, ⟨paths, item, key, hpaths, hitem, hfirst⟩, node, hnode, -, hcontent, rfl⟩
    exact ⟨hpaths, hitem, hfirst, hnode, resolve_eq_iff.1 rfl, hcontent⟩
  · rintro ⟨hpaths, hitem, hfirst, hnode, hbody, hcontent⟩
    exact ⟨_, ⟨_, _, _, hpaths, hitem, hfirst⟩, _, hnode, _, (resolve_eq_iff.2 hbody) ▸ hcontent,
      rfl⟩

lemma requestBody?_eq_some_iff {contentType : Option String} {schema : Json} :
    d.requestBody? o contentType = some schema ↔ ∃ content, d.HasContent o content
      ∧ ∃ type, Decides content contentType type
      ∧ ∃ media, content.lookup type = some media ∧ media.get? "schema" = some schema := by
  simp only [requestBody?_eq_bind, Option.bind_eq_some_iff, bodyContent?_eq_some_iff,
    selectMedia?_eq_some_iff]
  constructor
  · rintro ⟨content, hcontent, media, ⟨type, htype, hmedia⟩, hschema⟩
    exact ⟨content, hcontent, type, htype, media, hmedia, hschema⟩
  · rintro ⟨content, hcontent, type, htype, media, hmedia, hschema⟩
    exact ⟨content, hcontent, media, ⟨type, htype, hmedia⟩, hschema⟩

/-- An entry of a path item whose key equals a method up to case is listed under that method. -/
lemma mem_methodsOf {m key : String} {item : Json.Members} {description : Json}
    (hm : m ∈ httpMethods) (hkey : eqAsciiCase m.toList key.toList = true)
    (hentry : (key, description) ∈ item) : m ∈ methodsOf item := by
  have hlower : String.ofList (lowercase key.toList) = m := by
    rw [Operation.lowercase_of_eqAsciiCase hm hkey, String.ofList_toList]
  refine List.mem_filter.2 ⟨List.mem_map.2 ⟨_, hentry, hlower⟩, ?_⟩
  simpa using hm

/-- The media types of a body are those of an operation that the document lists. -/
lemma HasContent.mem_operations {m : String} (h : d.HasContent o content) (hm : m ∈ httpMethods)
    (hmethod : eqAsciiCase m.toList o.method.toList = true) : ⟨m, o.path⟩ ∈ d.operations := by
  cases h with
  | @intro paths description node body item content key hpaths hitem hfirst =>
    obtain ⟨before, after, hentries, hkey, -⟩ := hfirst
    have hentry : (key, description) ∈ item := by
      rw [hentries]
      exact List.mem_append_right before List.mem_cons_self
    have hlisted : m ∈ methodsOf item := by
      refine mem_methodsOf hm ?_ hentry
      rw [eqAsciiCase_iff] at hmethod hkey ⊢
      exact hmethod.trans hkey.symm
    cases paths with
    | object paths =>
      obtain ⟨front, rest, hpath, -⟩ := List.lookup_eq_some_iff.1 hitem
      rw [operations, hpaths, List.mem_flatMap]
      refine ⟨(o.path, .object item), ?_, List.mem_map_of_mem hlisted⟩
      rw [Option.bind_some, Json.members?, Option.getD_some, hpath]
      exact List.mem_append_right front List.mem_cons_self
    | _ => cases hitem

/-- The answer is the same for a method in letters of another case. -/
lemma operation?_congr_case {method : String}
    (h : eqAsciiCase o.method.toList method.toList = true) :
    d.operation? ⟨method, o.path⟩ = d.operation? o := by
  rw [eqAsciiCase_iff] at h
  simp only [operation?, eqAsciiCase, h]

/-- **The schema of a request body is that of the deciding media type of the body of the first entry
for the method.**  There is one for listed operations only, the case of the method does not matter,
and where no media type is asked for, asking for a preferred one gives the same. -/
theorem requestBody?_found
    (hmethod : ∃ m ∈ httpMethods, eqAsciiCase m.toList o.method.toList = true)
    (contentType : Option String) :
    (∀ schema, d.requestBody? o contentType = some schema ↔ ∃ content, d.HasContent o content
        ∧ ∃ type, Decides content contentType type
        ∧ ∃ media, content.lookup type = some media ∧ media.get? "schema" = some schema)
      ∧ (∀ schema, d.requestBody? o contentType = some schema →
        ⟨.ofList (lowercase o.method.toList), o.path⟩ ∈ d.operations)
      ∧ (∀ method : String, eqAsciiCase o.method.toList method.toList = true →
        d.requestBody? ⟨method, o.path⟩ contentType = d.requestBody? o contentType)
      ∧ ∀ content type, d.HasContent o content → Preferred content type →
        d.requestBody? o none = d.requestBody? o (some type) := by
  refine ⟨fun schema => requestBody?_eq_some_iff, fun schema hschema => ?_,
    fun method hcase => ?_, fun content type h htype => ?_⟩
  · obtain ⟨m, hm, hcase⟩ := hmethod
    obtain ⟨content, hcontent, -⟩ := requestBody?_eq_some_iff.1 hschema
    rw [Operation.lowercase_of_eqAsciiCase hm hcase, String.ofList_toList]
    exact hcontent.mem_operations hm hcase
  · simp only [requestBody?, operation?_congr_case hcase]
  · have hselect : selectMedia? content none = selectMedia? content (some type) :=
      selectMedia?_eq_lookup htype
    rw [requestBody?_eq_bind, requestBody?_eq_bind, bodyContent?_eq_some_iff.2 h]
    simp only [Option.bind_some, hselect]

/-! Orders are posted with one of two forms; the forms are a component, and the method of the path
item is there twice. -/

def orderForms : Document := ⟨.object
  [("paths", .object
    [("x-owner", .string "sales"),
      ("/orders", .object
        [("parameters", .array []),
          ("Post", .object [("requestBody",
            .object [("$ref", .string "#/components/requestBodies/order~1form")])]),
          ("POST", .object [])])]),
    ("components", .object [("requestBodies", .object [("order/form", .object [("content", .object
      [("text/plain", .object [("schema", .object [("type", .string "string")])]),
        ("application/hal+json",
          .object [("schema", .object [("type", .string "object")])])])])])])]⟩

theorem requestBody?_found_orderForms :
    (∃ m ∈ httpMethods, eqAsciiCase m.toList "pOsT".toList = true)
      ∧ orderForms.requestBody? ⟨"pOsT", "/orders"⟩ none
        = some (.object [("type", .string "object")])
      ∧ ⟨"post", "/orders"⟩ ∈ orderForms.operations
      ∧ orderForms.requestBody? ⟨"PosT", "/orders"⟩ none
        = orderForms.requestBody? ⟨"pOsT", "/orders"⟩ none
      ∧ orderForms.requestBody? ⟨"pOsT", "/orders"⟩ none
        = orderForms.requestBody? ⟨"pOsT", "/orders"⟩ (some "application/hal+json") := by
  have hmethod : ∃ m ∈ httpMethods, eqAsciiCase m.toList "pOsT".toList = true :=
    ⟨"post", by decide, by decide⟩
  obtain ⟨content, hbody, hjson⟩ : ∃ content,
      orderForms.bodyContent? ⟨"pOsT", "/orders"⟩ = some content
        ∧ (content.map Prod.fst).find? speaksOfJson = some "application/hal+json" :=
    ⟨_, rfl, by decide⟩
  have hcontent : orderForms.HasContent ⟨"pOsT", "/orders"⟩ content :=
    bodyContent?_eq_some_iff.1 hbody
  have htype : Preferred content "application/hal+json" :=
    .json (find?_speaksOfJson_eq_some_iff.1 hjson)
  have hschema : orderForms.requestBody? ⟨"pOsT", "/orders"⟩ none
      = some (.object [("type", .string "object")]) := by decide
  obtain ⟨-, hlisted, hcase, hmedia⟩ :=
    requestBody?_found (d := orderForms) (o := ⟨"pOsT", "/orders"⟩) hmethod none
  have hpost : String.ofList (lowercase "pOsT".toList) = "post" := by decide
  exact ⟨hmethod, hschema, hpost ▸ hlisted _ hschema, hcase "PosT" (by decide),
    hmedia content _ hcontent htype⟩

end Document

end ApiSurvey.Schema
