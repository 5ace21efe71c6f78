import ApiSurvey.Proofs.FieldPath.Concatenation
import ApiSurvey.Proofs.Text.Trim

/-!
# Paths as they are written

A path is written with points between its segments, and reading takes the points, the blanks and the
marks of expansion for what they are in a path.  So a segment is read as it was written only if none
of these is part of its key in a place where it means something else.  What comes of reading a text
is always of this kind: the path is then written in the one form that has no blanks and no empty
keys.
-/

namespace ApiSurvey

open Text

namespace Text

variable {sep : Char} {cs piece : List Char}

lemma splitOn_eq_singleton (h : sep ∉ cs) : splitOn sep cs = [cs] := by
  induction cs with
  | nil => rfl
  | cons c cs ih =>
    rw [List.mem_cons, not_or] at h
    rw [splitOn, if_neg (Ne.symm h.1), ih h.2]

lemma sep_notMem_of_mem_splitOn (h : piece ∈ splitOn sep cs) : sep ∉ piece := by
  induction cs generalizing piece with
  | nil =>
    obtain rfl := List.mem_singleton.1 h
    exact List.not_mem_nil
  | cons c cs ih =>
    obtain ⟨first, others, hpieces⟩ := List.exists_cons_of_ne_nil (splitOn_ne_nil sep cs)
    rw [hpieces] at ih
    rw [splitOn, hpieces] at h
    split at h
    · rcases List.mem_cons.1 h with rfl | h
      · exact List.not_mem_nil
      · exact ih h
    · next hc =>
      rcases List.mem_cons.1 h with rfl | h
      · exact List.not_mem_cons_of_ne_of_not_mem (Ne.symm hc) (ih List.mem_cons_self)
      · exact ih (List.mem_cons_of_mem first h)

end Text

/-! ## One key as written -/

namespace FieldPath

/-- A text that is one key of a path as it stands. -/
structure IsToken (cs : List Char) : Prop where
  nonempty : cs ≠ []
  noPoint : '.' ∉ cs
  trimmed : Trimmed cs

variable {path token : String}

lemma tokens_eq_singleton (h : IsToken token.toList) : tokens token = [token] := by
  have hkept : [token.toList].filter (!·.isEmpty) = [token.toList] :=
    List.filter_cons_of_pos (by simpa using h.nonempty)
  rw [tokens, splitOn_eq_singleton h.noPoint, List.map_singleton, trim_eq_self_iff.2 h.trimmed,
    hkept, List.map_singleton, String.ofList_toList]

lemma isToken_of_mem_tokens (h : token ∈ tokens path) : IsToken token.toList := by
  obtain ⟨cs, hcs, rfl⟩ := List.mem_map.1 h
  obtain ⟨hmem, hkept⟩ := List.mem_filter.1 hcs
  obtain ⟨piece, hpiece, rfl⟩ := List.mem_map.1 hmem
  rw [String.toList_ofList]
  refine ⟨by simpa using hkept, fun hpoint => ?_, trimmed_trim piece⟩
  exact sep_notMem_of_mem_splitOn hpiece (mem_of_mem_trim hpoint)

/-- **The texts that are one key of a path.** -/
lemma tokens_eq_singleton_iff : tokens token = [token] ↔ IsToken token.toList :=
  ⟨fun h => isToken_of_mem_tokens (h ▸ List.mem_cons_self), tokens_eq_singleton⟩

/-- Keys with points between them are read one by one. -/
lemma tokens_joinWith {pieces : List (List Char)} (h : ∀ piece ∈ pieces, IsToken piece) :
    tokens (String.ofList (joinWith ['.'] pieces)) = pieces.map String.ofList := by
  induction pieces with
  | nil => rfl
  | cons piece pieces ih =>
    obtain ⟨hpiece, hpieces⟩ := List.forall_mem_cons.1 h
    have hsingle : tokens (String.ofList piece) = [String.ofList piece] :=
      tokens_eq_singleton (by rwa [String.toList_ofList])
    cases pieces with
    | nil => exact hsingle
    | cons next rest =>
      have hjoin : String.ofList (joinWith ['.'] (piece :: next :: rest))
          = String.ofList piece ++ "." ++ String.ofList (joinWith ['.'] (next :: rest)) := by
        simp [joinWith, ← String.toList_inj]
      rw [hjoin, tokens_append, hsingle, ih hpieces]
      rfl

end FieldPath

/-! ## Segments as written -/

open FieldPath

namespace Segment

/-- A segment that is read as it is written: no point is part of its key, it is not empty as written
and has no blanks at its ends, and no mark ends its key if it does not expand. -/
structure Readable (s : Segment) : Prop where
  noPoint : '.' ∉ s.key.toList
  nonempty : s.render ≠ []
  trimmed : Trimmed s.render
  unmarked : s.expand = false → ¬ expansionMark <:+ s.key.toList

variable {s : Segment} {token : String}

lemma render_ofToken (token : String) : (ofToken token).render = token.toList := by
  unfold ofToken
  split
  · next key hkey =>
    rw [render, if_pos rfl, String.toList_ofList]
    exact (stripTail_eq_some_iff.1 hkey).symm
  · rfl

lemma Readable.isToken (h : Readable s) : IsToken s.render where
  nonempty := h.nonempty
  noPoint := by
    rw [render]
    split
    · rw [List.mem_append, not_or]
      exact ⟨h.noPoint, by decide⟩
    · exact h.noPoint
  trimmed := h.trimmed

lemma Readable.ofToken_render (h : Readable s) : ofToken (String.ofList s.render) = s := by
  obtain ⟨key, expand⟩ := s
  rw [ofToken, String.toList_ofList]
  cases expand with
  | true =>
    have hkey : stripTail expansionMark (render ⟨key, true⟩) = some key.toList :=
      stripTail_eq_some_iff.2 rfl
    rw [hkey]
    simp only [String.ofList_toList]
  | false =>
    have hkey : stripTail expansionMark (render ⟨key, false⟩) = none := by
      refine Option.eq_none_iff_forall_ne_some.2 fun rest hrest => h.unmarked rfl ?_
      exact ⟨rest, (stripTail_eq_some_iff.1 hrest).symm⟩
    rw [hkey]
    simp [render]

/-- What a key as written stands for is readable. -/
lemma readable_ofToken (h : IsToken token.toList) : Readable (ofToken token) := by
  refine ⟨fun hpoint => h.noPoint ?_, ?_, ?_, fun hexpand hmark => ?_⟩
  · rw [← render_ofToken token, render]
    split
    · exact List.mem_append_left _ hpoint
    · exact hpoint
  · rw [render_ofToken]
    exact h.nonempty
  · rw [render_ofToken]
    exact h.trimmed
  · -- a token that ends with the mark expands
    obtain ⟨rest, hrest⟩ := hmark
    have hrender : (ofToken token).render = (ofToken token).key.toList := by
      rw [render, hexpand]
      rfl
    rw [render_ofToken] at hrender
    have hstrip : stripTail expansionMark token.toList = some rest :=
      stripTail_eq_some_iff.2 (hrender.trans hrest.symm)
    rw [ofToken, hstrip] at hexpand
    cases hexpand

end Segment

namespace FieldPath

/-! ## Paths as written -/

lemma readable_of_mem_parse {path : String} {s : Segment} (h : s ∈ (parse path).segments) :
    s.Readable := by
  obtain ⟨token, htoken, rfl⟩ := List.mem_map.1 h
  exact Segment.readable_ofToken (isToken_of_mem_tokens htoken)

lemma parse_render {p : FieldPath} (h : ∀ s ∈ p.segments, s.Readable) : parse p.render = p := by
  have htokens : tokens p.render
      = (p.segments.map Segment.render).map String.ofList := by
    refine tokens_joinWith fun piece hpiece => ?_
    obtain ⟨s, hs, rfl⟩ := List.mem_map.1 hpiece
    exact (h s hs).isToken
  have hsegments : (tokens p.render).map Segment.ofToken = p.segments := by
    rw [htokens, List.map_map, List.map_map]
    exact (List.map_congr_left fun s hs => (h s hs).ofToken_render).trans p.segments.map_id
  rw [parse, hsegments]

/-- **A path is read as it is written just if all its segments are readable**, which the segments of
a path that was read always are; so reading what is written of such a path changes nothing. -/
theorem parse_render_iff :
    (∀ p : FieldPath, parse p.render = p ↔ ∀ s ∈ p.segments, s.Readable)
      ∧ (∀ path, ∀ s ∈ (parse path).segments, s.Readable)
      ∧ ∀ path, parse (parse path).render = parse path := by
  refine ⟨fun p => ⟨fun h s hs => ?_, parse_render⟩, fun path s => readable_of_mem_parse,
    fun path => parse_render fun s => readable_of_mem_parse⟩
  rw [← h] at hs
  exact readable_of_mem_parse hs

/-! A blank in front of the mark of expansion is part of the key. -/

theorem parse_render_lines :
    parse " lines [].." = ⟨[⟨"lines ", true⟩]⟩
      ∧ Segment.Readable ⟨"lines ", true⟩
      ∧ parse (render ⟨[⟨"lines ", true⟩]⟩) = ⟨[⟨"lines ", true⟩]⟩ := by
  have hparse : parse " lines [].." = ⟨[⟨"lines ", true⟩]⟩ := by decide +kernel
  have hreadable : Segment.Readable ⟨"lines ", true⟩ :=
    parse_render_iff.2.1 " lines [].." _ (hparse ▸ List.mem_cons_self)
  exact ⟨hparse, hreadable, (parse_render_iff.1 _).2 (by simpa using hreadable)⟩

-- A key may end with the mark if the segment expands, and then the mark is written twice.
example :
    parse (render ⟨[⟨"tags[]", true⟩]⟩) = ⟨[⟨"tags[]", true⟩]⟩
      ∧ parse (render ⟨[⟨"tags[]", false⟩]⟩) = ⟨[⟨"tags", true⟩]⟩ := by
  decide +kernel

end FieldPath

end ApiSurvey
