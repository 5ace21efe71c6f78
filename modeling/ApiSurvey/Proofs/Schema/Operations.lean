import ApiSurvey.Proofs.Text.Ascii
import ApiSurvey.Proofs.Text.Trim
import ApiSurvey.Schema.Operation

/-!
# Operations as they are listed and as they are addressed

A document lists its operations under the keys of its paths, whatever these keys are, and shows each
with its method in capitals.  A text that addresses an operation is trimmed first, and then its path
has to begin with a slash.  So the text that shows an operation addresses it only if its path is
such a path: an entry of an extension is listed, but cannot be addressed, and a path that ends with
a blank is taken for the one without it.
-/

namespace ApiSurvey.Schema

open Text

namespace Operation

/-- A path that can be addressed: it begins with a slash and does not end with a blank. -/
structure Addressable (path : String) : Prop where
  slash : path.toList.head? = some '/'
  last : ∀ c ∈ path.toList.getLast?, isBlank c = false

lemma Addressable.trimmed {path : String} (h : Addressable path) : Trimmed path.toList where
  head := by
    intro c hc
    obtain rfl : '/' = c := Option.some.inj (h.slash.symm.trans hc)
    decide
  last := h.last

lemma addressable_iff {path : String} :
    Addressable path ↔ trim path.toList = path.toList ∧ path.toList.head? = some '/' := by
  rw [trim_eq_self_iff]
  exact ⟨fun h => ⟨h.trimmed, h.slash⟩, fun h => ⟨h.2, h.1.last⟩⟩

/-! ## A method in front of a path -/

/-- A word that is the name of a method, in small letters or in capitals. -/
structure MethodWord (word : List Char) : Prop where
  ne_nil : word ≠ []
  solid : ∀ c ∈ word, isBlank c = false
  known : (httpMethods.any fun m => eqAsciiCase m.toList word) = true

/-- The methods are written in small letters of ASCII. -/
lemma httpMethods_small : ∀ m ∈ httpMethods, m.toList ≠ [] ∧ asciiLower m.toList = m.toList
    ∧ (m.toList.all fun c => decide (c.toNat < 128) && !isBlank c) = true := by
  decide

section

variable {m : String} {word : List Char} (hm : m ∈ httpMethods)

include hm

lemma asciiLower_eq_of_eqAsciiCase (h : eqAsciiCase m.toList word = true) :
    asciiLower word = m.toList := by
  rw [← eqAsciiCase_iff.1 h]
  exact (httpMethods_small m hm).2.1

/-- The characters of a word that equals a method up to case. -/
lemma solid_of_eqAsciiCase (h : eqAsciiCase m.toList word = true) :
    ∀ c ∈ word, c.toNat < 128 ∧ isBlank c = false := by
  intro c hc
  have hsmall : c.toLower ∈ m.toList :=
    asciiLower_eq_of_eqAsciiCase hm h ▸ List.mem_map_of_mem hc
  have hall := List.all_eq_true.1 (httpMethods_small m hm).2.2 _ hsmall
  rw [Bool.and_eq_true, decide_eq_true_eq, Bool.not_eq_true'] at hall
  obtain ⟨hascii, hsolid⟩ := hall
  have hc' : c.toNat < 128 := toNat_lt_of_toLower hascii
  exact ⟨hc', isBlank_toLower ▸ hsolid⟩

lemma methodWord_of_eqAsciiCase (h : eqAsciiCase m.toList word = true) : MethodWord word where
  ne_nil := by
    rintro rfl
    exact (httpMethods_small m hm).1 (asciiLower_eq_of_eqAsciiCase hm h).symm
  solid c hc := (solid_of_eqAsciiCase hm h c hc).2
  known := List.any_eq_true.2 ⟨m, hm, h⟩

/-- The full lowercase form of a word that equals a method up to case is that method. -/
lemma lowercase_of_eqAsciiCase (h : eqAsciiCase m.toList word = true) :
    lowercase word = m.toList := by
  rw [lowercase_eq_asciiLower fun c hc => (solid_of_eqAsciiCase hm h c hc).1]
  exact asciiLower_eq_of_eqAsciiCase hm h

lemma eqAsciiCase_uppercase : eqAsciiCase m.toList (uppercase m.toList) = true := by
  have hall : ∀ m ∈ httpMethods, eqAsciiCase m.toList (uppercase m.toList) = true := by
    decide
  exact hall m hm

lemma methodWord_uppercase : MethodWord (uppercase m.toList) :=
  methodWord_of_eqAsciiCase hm (eqAsciiCase_uppercase hm)

lemma lowercase_uppercase : lowercase (uppercase m.toList) = m.toList :=
  lowercase_of_eqAsciiCase hm (eqAsciiCase_uppercase hm)

end

namespace MethodWord

variable {word : List Char}

lemma trimmed (h : MethodWord word) : Trimmed word where
  head _ hc := h.solid _ (List.mem_of_mem_head? hc)
  last _ hc := h.solid _ (List.mem_of_mem_getLast? hc)

/-- With blanks after it, a method is all there is. -/
lemma parse_blank (h : MethodWord word) {path : String} (hpath : trim path.toList = []) :
    parse (String.ofList word ++ " " ++ path)
      = .error (.oneWord (String.ofList word ++ " " ++ path)) := by
  obtain ⟨before, after, hbefore, hafter, heq⟩ := exists_eq_between path.toList
  have hblank : allBlank (' ' :: (before ++ after)) = true := by
    rw [allBlank_iff] at hbefore hafter ⊢
    intro c hc
    rcases List.mem_cons.1 hc with rfl | hc
    · decide
    · exact (List.mem_append.1 hc).elim (hbefore c) (hafter c)
  have hchars : (String.ofList word ++ " " ++ path).toList
      = [] ++ (word ++ ' ' :: (before ++ after)) := by
    rw [hpath] at heq
    simp [heq]
  have htrim : trim (String.ofList word ++ " " ++ path).toList = word := by
    rw [hchars]
    exact trim_between rfl hblank h.trimmed
  have hsplit : splitOnce isBlank word = none := splitOnce_eq_none_iff.2 h.solid
  rw [parse, htrim, hsplit]

/-- Before a blank, a method is cut off, and what follows is trimmed. -/
lemma parse_of_trim (h : MethodWord word) {text : String} {sep : Char} {rest : List Char}
    (htext : trim text.toList = word ++ sep :: rest) (hsep : isBlank sep = true) :
    parse text = if (trim rest).head? = some '/' then
        .ok ⟨String.ofList (lowercase word), String.ofList (trim rest)⟩
      else .error (.noSlash (String.ofList (trim rest))) := by
  rw [parse, htext, splitOnce_append_cons h.solid hsep]
  simp only [h.known, Bool.not_true, Bool.false_eq_true, if_false, bne_iff_ne, ne_eq, ite_not]

/-- With a path after it, a method is cut off, and the path is trimmed. -/
lemma parse_path (h : MethodWord word) {path : String} (hpath : trim path.toList ≠ []) :
    parse (String.ofList word ++ " " ++ path)
      = if (trim path.toList).head? = some '/' then
          .ok ⟨String.ofList (lowercase word), String.ofList (trim path.toList)⟩
        else .error (.noSlash (String.ofList (trim path.toList))) := by
  obtain ⟨before, after, hbefore, hafter, heq⟩ := exists_eq_between path.toList
  have hchars : (String.ofList word ++ " " ++ path).toList
      = [] ++ ((word ++ (' ' :: before ++ trim path.toList)) ++ after) := by
    simp [← heq]
  have htrim : trim (String.ofList word ++ " " ++ path).toList
      = word ++ ' ' :: (before ++ trim path.toList) := by
    rw [hchars]
    exact trim_between rfl hafter
      (h.trimmed.append (trimmed_trim _) h.ne_nil hpath (' ' :: before))
  have hrest : trim (before ++ trim path.toList) = trim path.toList := by
    have hnone : trim (before ++ (trim path.toList ++ [])) = trim path.toList :=
      trim_between hbefore rfl (trimmed_trim _)
    rwa [List.append_nil] at hnone
  rw [h.parse_of_trim htrim (by decide), hrest]

end MethodWord

/-! ## Operations of a document -/

lemma method_mem_of_mem_operations {d : Document} {o : Operation} (h : o ∈ d.operations) :
    o.method ∈ httpMethods := by
  simp only [Document.operations, List.mem_flatMap, List.mem_map] at h
  obtain ⟨entry, -, method, hmethod, rfl⟩ := h
  simpa using (List.mem_filter.1 hmethod).2

variable {d : Document} {o : Operation}

/-- **What the text that shows an operation addresses**: the operation at the trimmed path, if this
is a path at all. -/
lemma parse_render_of_method (hmethod : o.method ∈ httpMethods) :
    parse o.render
      = if trim o.path.toList = [] then .error (.oneWord o.render)
        else if (trim o.path.toList).head? = some '/' then
          .ok ⟨o.method, String.ofList (trim o.path.toList)⟩
        else .error (.noSlash (String.ofList (trim o.path.toList))) := by
  have hword : MethodWord (uppercase o.method.toList) := methodWord_uppercase hmethod
  split
  · next hblank => exact hword.parse_blank hblank
  · next hpath =>
    rw [render, hword.parse_path hpath, lowercase_uppercase hmethod, String.ofList_toList]

lemma parse_render_of_mem (h : o ∈ d.operations) :
    parse o.render
      = if trim o.path.toList = [] then .error (.oneWord o.render)
        else if (trim o.path.toList).head? = some '/' then
          .ok ⟨o.method, String.ofList (trim o.path.toList)⟩
        else .error (.noSlash (String.ofList (trim o.path.toList))) :=
  parse_render_of_method (method_mem_of_mem_operations h)

/-- **The text that shows a listed operation addresses it just if its path can be addressed.** -/
theorem parse_render_eq_ok_iff (h : o ∈ d.operations) :
    parse o.render = .ok o ↔ Addressable o.path := by
  rw [parse_render_of_mem h, addressable_iff]
  constructor
  · intro hok
    split at hok
    · cases hok
    · split at hok
      · next hslash =>
        have hpath : String.ofList (trim o.path.toList) = o.path :=
          congrArg Operation.path (Except.ok.inj hok)
        have htrim : trim o.path.toList = o.path.toList := by
          simpa using congrArg String.toList hpath
        exact ⟨htrim, htrim ▸ hslash⟩
      · cases hok
  · rintro ⟨htrim, hslash⟩
    have hne : o.path.toList ≠ [] := by
      intro hnil
      rw [hnil] at hslash
      cases hslash
    rw [htrim, if_neg hne, if_pos hslash, String.ofList_toList]

/-! An interface for orders: one operation in capitals, one with a parameter in its path. -/

def orderPaths : Document := ⟨.object [("paths", .object
  [("/orders", .object [("parameters", .array []), ("POST", .object [])]),
    ("/orders/{order id}", .object [("put", .object []), ("x-since", .string "2024")])])]⟩

theorem parse_render_orderPaths :
    (⟨"put", "/orders/{order id}"⟩ : Operation) ∈ orderPaths.operations
      ∧ Addressable "/orders/{order id}"
      ∧ parse (render ⟨"put", "/orders/{order id}"⟩) = .ok ⟨"put", "/orders/{order id}"⟩ := by
  have hmem : (⟨"put", "/orders/{order id}"⟩ : Operation) ∈ orderPaths.operations := by
    decide +kernel
  have haddressable : Addressable "/orders/{order id}" := addressable_iff.2 (by decide +kernel)
  exact ⟨hmem, haddressable, (parse_render_eq_ok_iff hmem).2 haddressable⟩

/-- The same interface with an extension beside its paths, and with a blank after one of them. -/
def hookPaths : Document := ⟨.object [("paths", .object
  [("/orders", .object [("get", .object [])]), ("/orders ", .object [("post", .object [])]),
    ("x-hooks", .object [("post", .object [])])])]⟩

/-- What is listed of the extension cannot be addressed, and the path with the blank is taken for
another. -/
theorem parse_render_hookPaths :
    hookPaths.operations = [⟨"get", "/orders"⟩, ⟨"post", "/orders "⟩, ⟨"post", "x-hooks"⟩]
      ∧ parse (render ⟨"post", "x-hooks"⟩) = .error (.noSlash "x-hooks")
      ∧ parse (render ⟨"post", "/orders "⟩) = .ok ⟨"post", "/orders"⟩ := by
  decide +kernel

end Operation

end ApiSurvey.Schema
