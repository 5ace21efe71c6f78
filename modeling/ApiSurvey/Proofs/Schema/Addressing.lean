import ApiSurvey.Proofs.Schema.Operations

/-!
# Texts that address an operation

Between the blanks at its ends, a text that addresses an operation is a method in letters of either
case, a gap of blanks, and a path that begins with a slash; the path may have blanks within it.  The
operation has the method in small letters.  So its method is known and its path can be addressed,
and the text that shows it addresses it again.
-/

namespace ApiSurvey.Schema.Operation

open Text

/-- A text addresses an operation: without the blanks at its ends it is a method, a gap and a
path. -/
inductive AddressedBy (text : String) : Operation → Prop
  | intro {method gap path : List Char} (htext : trim text.toList = method ++ (gap ++ path))
      (hmethod : ∃ m ∈ httpMethods, eqAsciiCase m.toList method = true)
      (hgap : gap ≠ []) (hblank : ∀ c ∈ gap, isBlank c = true) (hslash : path.head? = some '/') :
      AddressedBy text ⟨.ofList (lowercase method), .ofList path⟩

variable {text : String} {o : Operation}

/-- What stands at the end of a trimmed text does not end with a blank. -/
lemma last_of_trim {before after : List Char} (h : trim text.toList = before ++ after)
    (hne : after ≠ []) : ∀ c ∈ after.getLast?, isBlank c = false := by
  intro c hc
  refine (trimmed_trim text.toList).last c ?_
  rwa [h, List.getLast?_append_of_ne_nil before hne]

/-- So no blanks stand there. -/
lemma eq_nil_of_trim {before after : List Char} (h : trim text.toList = before ++ after)
    (hafter : allBlank after = true) : after = [] := by
  by_contra hne
  have hlast := List.getLast?_eq_some_getLast hne
  have hblank := allBlank_iff.1 hafter _ (List.getLast_mem hne)
  rw [last_of_trim h hne _ hlast] at hblank
  contradiction

/-- What is cut off in front of the first blank is the method, and what is left of the rest without
the blanks at its ends is the path. -/
lemma addressedBy_of_parse (h : parse text = .ok o) : AddressedBy text o := by
  rw [parse] at h
  split at h
  · cases h
  · next method rest hsplit =>
    obtain ⟨sep, hsep, htext, -⟩ := eq_append_of_splitOnce hsplit
    obtain ⟨before, after, hbefore, hafter, hrest⟩ := exists_eq_between rest
    have hgap : trim text.toList = (method ++ (sep :: before ++ trim rest)) ++ after := by
      rw [htext, List.append_assoc, List.append_assoc, List.cons_append, ← hrest]
    obtain rfl := eq_nil_of_trim hgap hafter
    rw [List.append_nil] at hgap
    dsimp only at h
    split at h
    · cases h
    · next hknown =>
      split at h
      · cases h
      · next hslash =>
        obtain rfl := Except.ok.inj h
        refine .intro hgap ?_ (List.cons_ne_nil sep before) ?_ (by simpa using hslash)
        · simpa using hknown
        · exact List.forall_mem_cons.2 ⟨hsep, allBlank_iff.1 hbefore⟩

/-- What a text addresses is an operation with a method that is known and a path that can be
addressed. -/
lemma AddressedBy.method_mem (h : AddressedBy text o) : o.method ∈ httpMethods := by
  obtain ⟨-, ⟨m, hm, hcase⟩, -, -, -⟩ := h
  rwa [lowercase_of_eqAsciiCase hm hcase, String.ofList_toList]

lemma AddressedBy.addressable (h : AddressedBy text o) : Addressable o.path := by
  obtain ⟨htext, -, -, -, hslash⟩ := h
  refine ⟨by rwa [String.toList_ofList], ?_⟩
  rw [String.toList_ofList]
  refine last_of_trim (by rw [htext, List.append_assoc]) ?_
  rintro rfl
  cases hslash

/-- The blanks of the gap are cut off, so any gap does. -/
lemma AddressedBy.parse_eq (h : AddressedBy text o) : parse text = .ok o := by
  have hpath := h.addressable.trimmed
  obtain ⟨htext, ⟨m, hm, hcase⟩, hgap, hblank, hslash⟩ := h
  rename_i method gap path
  rw [String.toList_ofList] at hpath
  obtain ⟨sep, gap, rfl⟩ := List.exists_cons_of_ne_nil hgap
  obtain ⟨hsep, hblank⟩ := List.forall_mem_cons.1 hblank
  have hrest : trim (gap ++ path) = path := by
    have hnone : trim (gap ++ (path ++ [])) = path :=
      trim_between (allBlank_iff.2 hblank) rfl hpath
    rwa [List.append_nil] at hnone
  rw [(methodWord_of_eqAsciiCase hm hcase).parse_of_trim htext hsep, List.append_eq, hrest,
    if_pos hslash]

/-- Such an operation is addressed by the text that shows it. -/
lemma parse_render_of_addressable (hmethod : o.method ∈ httpMethods) (hpath : Addressable o.path) :
    parse o.render = .ok o := by
  obtain ⟨htrim, hslash⟩ := addressable_iff.1 hpath
  have hne : o.path.toList ≠ [] := by
    intro hnil
    rw [hnil] at hslash
    cases hslash
  rw [parse_render_of_method hmethod, htrim, if_neg hne, if_pos hslash, String.ofList_toList]

/-- **A text addresses an operation just if, without the blanks at its ends, it is a method in
letters of either case, a gap of blanks and a path with a slash in front; and what shows the
operation addresses it again.** -/
theorem parse_addressed (text : String) :
    (∀ o, parse text = .ok o ↔ AddressedBy text o)
      ∧ ∀ o, parse text = .ok o → parse o.render = .ok o := by
  refine ⟨fun o => ⟨addressedBy_of_parse, AddressedBy.parse_eq⟩, fun o h => ?_⟩
  have haddressed : AddressedBy text o := addressedBy_of_parse h
  exact parse_render_of_addressable haddressed.method_mem haddressed.addressable

/-- An operation with a blank in its path, written with blanks of several kinds around it. -/
theorem parse_addressed_item :
    AddressedBy "\u3000dElEtE\t\u00A0/items/{item id}\n" ⟨"delete", "/items/{item id}"⟩
      ∧ render ⟨"delete", "/items/{item id}"⟩ = "DELETE /items/{item id}"
      ∧ parse "DELETE /items/{item id}" = .ok ⟨"delete", "/items/{item id}"⟩ := by
  have hparse : parse "\u3000dElEtE\t\u00A0/items/{item id}\n"
      = .ok ⟨"delete", "/items/{item id}"⟩ := by decide
  obtain ⟨haddressed, hagain⟩ := parse_addressed "\u3000dElEtE\t\u00A0/items/{item id}\n"
  have hrender : render ⟨"delete", "/items/{item id}"⟩ = "DELETE /items/{item id}" := by
    decide
  exact ⟨(haddressed _).1 hparse, hrender, hrender ▸ hagain _ hparse⟩

end ApiSurvey.Schema.Operation
