import ApiSurvey.Toml.Document
import Mathlib.Tactic.Common

/-!
# What later statements leave alone

A value that was assigned is closed: no later statement changes it, or takes away the table that it
is in.  So a value assigned under the header of a table is the one that the finished table binds its
key to.
-/

namespace ApiSurvey.Toml

namespace Entries

variable {entries entries' : Entries} {key : String} {entry : Entry}

/-! ## Bindings -/

lemma lookup_put_self (entries : Entries) (key : String) (entry : Entry) :
    (put entries key entry).lookup key = some entry := by
  induction entries with
  | nil => simp [put]
  | cons head rest ih =>
    obtain ⟨k, old⟩ := head
    by_cases hk : k = key
    · simp [put, hk]
    · simp [put, hk, List.lookup_cons, beq_false_of_ne (Ne.symm hk), ih]

lemma lookup_put_of_ne {k : String} (hne : k ≠ key) (entries : Entries) (entry : Entry) :
    (put entries key entry).lookup k = entries.lookup k := by
  induction entries with
  | nil => simp [put, hne]
  | cons head rest ih =>
    obtain ⟨k', old⟩ := head
    by_cases hk : k' = key
    · simp [put, hk, List.lookup_cons, beq_false_of_ne hne]
    · by_cases hk' : k = k' <;> simp [put, hk, List.lookup_cons, hk', ih]

/-- Every value that a key is bound to is still there. -/
def KeepsValues (entries entries' : Entries) : Prop :=
  ∀ k v, entries.lookup k = some (.value v) → entries'.lookup k = some (.value v)

/-- Every value is still there, and every table, with the values that it binds. -/
structure Extends (entries entries' : Entries) : Prop where
  values : KeepsValues entries entries'
  tables : ∀ k origin sub, entries.lookup k = some (.table origin sub) →
    ∃ origin' sub', entries'.lookup k = some (.table origin' sub') ∧ KeepsValues sub sub'

lemma KeepsValues.refl (entries : Entries) : KeepsValues entries entries :=
  fun _ _ h => h

lemma Extends.refl (entries : Entries) : Extends entries entries :=
  ⟨.refl entries, fun _ origin sub h => ⟨origin, sub, h, .refl sub⟩⟩

lemma Extends.trans {entries'' : Entries} (h : Extends entries entries')
    (h' : Extends entries' entries'') : Extends entries entries'' where
  values k v hv := h'.values k v (h.values k v hv)
  tables k origin sub hsub := by
    obtain ⟨origin', sub', hsub', hkeeps⟩ := h.tables k origin sub hsub
    obtain ⟨origin'', sub'', hsub'', hkeeps'⟩ := h'.tables k origin' sub' hsub'
    exact ⟨origin'', sub'', hsub'', fun k v hv => hkeeps' k v (hkeeps k v hv)⟩

/-- Whoever binds a key anew has to see to what it was bound to only. -/
lemma extends_put (hvalue : ∀ v, entries.lookup key ≠ some (.value v))
    (htable : ∀ origin sub, entries.lookup key = some (.table origin sub) →
      ∃ origin' sub', entry = .table origin' sub' ∧ KeepsValues sub sub') :
    Extends entries (put entries key entry) where
  values k v hv := by
    have hne : k ≠ key := by
      rintro rfl
      exact hvalue v hv
    rwa [lookup_put_of_ne hne]
  tables k origin sub hsub := by
    rcases eq_or_ne k key with rfl | hne
    · obtain ⟨origin', sub', rfl, hkeeps⟩ := htable origin sub hsub
      exact ⟨origin', sub', lookup_put_self .., hkeeps⟩
    · exact ⟨origin, sub, by rwa [lookup_put_of_ne hne], .refl sub⟩

/-- A key that is bound to nothing, or to a list of tables, can be bound to anything. -/
lemma extends_put_free (h : entries.lookup key = none
    ∨ ∃ elements, entries.lookup key = some (.tables elements)) :
    Extends entries (put entries key entry) := by
  rcases h with hlookup | ⟨elements, hlookup⟩
  · exact extends_put (by simp [hlookup]) (by simp [hlookup])
  · exact extends_put (by simp [hlookup]) (by simp [hlookup])

/-- A key that is bound to a table can be bound to one that keeps its values. -/
lemma extends_put_table {origin origin' : Origin} {sub sub' : Entries}
    (hlookup : entries.lookup key = some (.table origin sub)) (hkeeps : KeepsValues sub sub') :
    Extends entries (put entries key (.table origin' sub')) := by
  refine extends_put (by simp [hlookup]) fun origin'' old hold => ?_
  obtain ⟨-, rfl⟩ := Entry.table.inj (Option.some.inj (hlookup.symm.trans hold))
  exact ⟨origin', sub', rfl, hkeeps⟩

/-! ## Statements only extend -/

lemma extends_openTable (h : openTable key entries = some entries') : Extends entries entries' := by
  rw [openTable] at h
  split at h
  · next hlookup =>
    obtain rfl := Option.some.inj h
    exact extends_put_free (.inl hlookup)
  · next sub hlookup =>
    obtain rfl := Option.some.inj h
    exact extends_put_table hlookup (.refl sub)
  · contradiction

/-- An opened table is a table. -/
lemma exists_table_of_openTable (h : openTable key entries = some entries') :
    ∃ origin sub, entries'.lookup key = some (.table origin sub) := by
  rw [openTable] at h
  split at h
  · obtain rfl := Option.some.inj h
    exact ⟨_, _, lookup_put_self ..⟩
  · obtain rfl := Option.some.inj h
    exact ⟨_, _, lookup_put_self ..⟩
  · contradiction

lemma extends_appendTable (h : appendTable key entries = some entries') :
    Extends entries entries' := by
  rw [appendTable] at h
  split at h
  · next hlookup =>
    obtain rfl := Option.some.inj h
    exact extends_put_free (.inl hlookup)
  · next elements hlookup =>
    obtain rfl := Option.some.inj h
    exact extends_put_free (.inr ⟨elements, hlookup⟩)
  · contradiction

lemma extends_assignKey {v : Value} (h : assignKey key v entries = some entries') :
    Extends entries entries' := by
  rw [assignKey] at h
  split at h
  · next hlookup =>
    obtain rfl := Option.some.inj h
    exact extends_put_free (.inl hlookup)
  · contradiction

lemma lookup_of_assignKey {v : Value} (h : assignKey key v entries = some entries') :
    entries'.lookup key = some (.value v) := by
  rw [assignKey] at h
  split at h
  · obtain rfl := Option.some.inj h
    exact lookup_put_self ..
  · contradiction

/-- What extends the table that a key leads to extends the table of the key. -/
lemma extends_put_map {sub : Entries} {origin : Origin} {change : Entries → Option Entries}
    (hchange : ∀ sub', change sub = some sub' → Extends sub sub')
    (hlookup : entries.lookup key = some (.table origin sub))
    (h : ((change sub).map fun sub => put entries key (.table origin sub)) = some entries') :
    Extends entries entries' := by
  obtain ⟨sub', hsub', rfl⟩ := Option.map_eq_some_iff.1 h
  exact extends_put_table hlookup (hchange sub' hsub').values

lemma extends_put_map_free {old : Entries} {change : Entries → Option Entries}
    {wrap : Entries → Entry}
    (hlookup : entries.lookup key = none ∨ ∃ elements, entries.lookup key = some (.tables elements))
    (h : ((change old).map fun sub => put entries key (wrap sub)) = some entries') :
    Extends entries entries' := by
  obtain ⟨sub', -, rfl⟩ := Option.map_eq_some_iff.1 h
  exact extends_put_free hlookup

lemma extends_atHeader {change : Entries → Option Entries}
    (hchange : ∀ sub sub', change sub = some sub' → Extends sub sub') (keys : List String)
    (h : atHeader change keys entries = some entries') : Extends entries entries' := by
  induction keys generalizing entries entries' with
  | nil => exact hchange entries entries' h
  | cons key keys ih =>
    rw [atHeader] at h
    split at h
    · next hlookup => exact extends_put_map_free (.inl hlookup) h
    · contradiction
    · next origin sub hlookup => exact extends_put_map (fun sub' => ih) hlookup h
    · contradiction
    · next last others hlookup =>
      exact extends_put_map_free (.inr ⟨_, hlookup⟩) h

lemma extends_assign {v : Value} (keys : List String)
    (h : assign key v keys entries = some entries') : Extends entries entries' := by
  induction keys generalizing entries entries' with
  | nil => exact extends_assignKey h
  | cons next keys ih =>
    rw [assign] at h
    split at h
    · next hlookup => exact extends_put_map_free (.inl hlookup) h
    · next sub hlookup => exact extends_put_map (fun sub' => ih) hlookup h
    · next sub hlookup =>
      split at h
      · contradiction
      · exact extends_put_map (fun sub' => ih) hlookup h
    · next last others hlookup =>
      split at h
      · contradiction
      · exact extends_put_map_free (.inr ⟨_, hlookup⟩) h
    · contradiction

lemma extends_assignPath {path : List String} {v : Value}
    (h : assignPath path v entries = some entries') : Extends entries entries' := by
  rw [assignPath] at h
  split at h
  · contradiction
  · exact extends_assign _ h

/-- The value that entries have become is found where the entry is. -/
lemma lookup_finishEntries (entries : Entries) (key : String) :
    (finishEntries entries).lookup key = (entries.lookup key).map finishEntry := by
  induction entries with
  | nil => simp [finishEntries]
  | cons head rest ih =>
    obtain ⟨k, entry⟩ := head
    by_cases hk : key = k
    · simp [finishEntries, hk]
    · simp [finishEntries, List.lookup_cons, beq_false_of_ne hk, ih]

end Entries

namespace Progress

variable {p p' : Progress} {statement : Statement} {statements : List Statement}

lemma extends_enter? {path : List String} {change : String → Entries → Option Entries}
    (hchange : ∀ key sub sub', change key sub = some sub' → sub.Extends sub')
    (h : p.enter? path change = some p') :
    p.entries.Extends p'.entries ∧ p'.current = path := by
  rw [enter?] at h
  split at h
  · contradiction
  · obtain ⟨entries, hentries, rfl⟩ := Option.map_eq_some_iff.1 h
    exact ⟨Entries.extends_atHeader (hchange _) _ hentries, rfl⟩

lemma extends_step? (h : p.step? statement = some p') : p.entries.Extends p'.entries := by
  cases statement with
  | header path => exact (extends_enter? (fun _ _ _ => Entries.extends_openTable) h).1
  | listHeader path => exact (extends_enter? (fun _ _ _ => Entries.extends_appendTable) h).1
  | assign path v source =>
    obtain ⟨entries, hentries, rfl⟩ := Option.map_eq_some_iff.1 h
    exact Entries.extends_atHeader (fun _ _ => Entries.extends_assignPath) _ hentries

lemma extends_run (h : statements.foldlM step? p = some p') : p.entries.Extends p'.entries := by
  induction statements generalizing p with
  | nil =>
    obtain rfl : p = p' := Option.some.inj h
    exact .refl _
  | cons statement statements ih =>
    rw [List.foldlM_cons, Option.bind_eq_bind, Option.bind_eq_some_iff] at h
    obtain ⟨next, hstep, hrest⟩ := h
    exact (extends_step? hstep).trans (ih hrest)

end Progress

/-- The last header up to a statement, `last` being the one in front of it. -/
def Statement.lastHeader (last : Option Statement) : Statement → Option Statement
  | .assign _ _ _ => last
  | other => some other

/-- The last of the headers among statements. -/
def lastHeader? (statements : List Statement) : Option Statement :=
  statements.foldl (fun last statement => statement.lastHeader last) none

/-- After the header of a table that is named by one key, assignments are for it, and it is
there. -/
def Progress.Under (p : Progress) (last : Option Statement) : Prop :=
  ∀ name, last = some (.header [name]) →
    p.current = [name] ∧ ∃ origin sub, p.entries.lookup name = some (.table origin sub)

namespace Progress

variable {p p' : Progress} {last : Option Statement} {statement : Statement}
  {statements : List Statement}

lemma Under.step (hunder : p.Under last) (h : p.step? statement = some p') :
    p'.Under (statement.lastHeader last) := by
  intro name hlast
  cases statement with
  | header path =>
    obtain rfl : path = [name] := by simpa [Statement.lastHeader] using hlast
    obtain ⟨entries, hopen, rfl⟩ := Option.map_eq_some_iff.1 h
    exact ⟨rfl, Entries.exists_table_of_openTable hopen⟩
  | listHeader path => simp [Statement.lastHeader] at hlast
  | assign path v source =>
    obtain ⟨hcurrent, origin, sub, hsub⟩ := hunder name hlast
    obtain ⟨origin', sub', hsub', -⟩ := (extends_step? h).tables name origin sub hsub
    obtain ⟨entries, -, rfl⟩ := Option.map_eq_some_iff.1 h
    exact ⟨hcurrent, origin', sub', hsub'⟩

lemma Under.run (hunder : p.Under last) (h : statements.foldlM step? p = some p') :
    p'.Under (statements.foldl (fun last statement => statement.lastHeader last) last) := by
  induction statements generalizing p last with
  | nil =>
    obtain rfl : p = p' := Option.some.inj h
    exact hunder
  | cons statement statements ih =>
    rw [List.foldlM_cons, Option.bind_eq_bind, Option.bind_eq_some_iff] at h
    obtain ⟨next, hstep, hrest⟩ := h
    exact ih (hunder.step hstep) hrest

/-- Under the header of a table an assignment to a simple key binds it in the table. -/
lemma Under.assign {name key : String} {v : Value} {source : List Char}
    (hunder : p.Under (some (.header [name])))
    (h : p.step? (.assign [key] v source) = some p') :
    ∃ origin sub, p'.entries.lookup name = some (.table origin sub)
      ∧ sub.lookup key = some (.value v) := by
  obtain ⟨hcurrent, origin, sub, hsub⟩ := hunder name rfl
  obtain ⟨entries, hassign, rfl⟩ := Option.map_eq_some_iff.1 h
  rw [hcurrent, Entries.atHeader, hsub] at hassign
  obtain ⟨sub', hkey, rfl⟩ := Option.map_eq_some_iff.1 hassign
  refine ⟨origin, sub', Entries.lookup_put_self .., ?_⟩
  exact Entries.lookup_of_assignKey hkey

end Progress

/-- **What is assigned under the header of a table is what the table binds**, whatever follows. -/
theorem lookup_of_assigned {earlier later : List Statement} {name key : String} {v : Value}
    {source : List Char} {members : Members}
    (hlast : lastHeader? earlier = some (.header [name]))
    (h : ofStatements? (earlier ++ .assign [key] v source :: later) = some members) :
    ∃ inside, members.lookup name = some (.table inside) ∧ inside.lookup key = some v := by
  obtain ⟨final, hrun, rfl⟩ := Option.map_eq_some_iff.1 h
  rw [List.foldlM_append, Option.bind_eq_bind, Option.bind_eq_some_iff] at hrun
  obtain ⟨before, hbefore, hrun⟩ := hrun
  rw [List.foldlM_cons, Option.bind_eq_bind, Option.bind_eq_some_iff] at hrun
  obtain ⟨assigned, hassigned, hafter⟩ := hrun
  have hunder : before.Under (some (.header [name])) := by
    rw [← hlast]
    exact Progress.Under.run (fun name hnone => by contradiction) hbefore
  obtain ⟨origin, sub, hsub, hkey⟩ := hunder.assign hassigned
  obtain ⟨origin', sub', hsub', hkeeps⟩ :=
    (Progress.extends_run hafter).tables name origin sub hsub
  refine ⟨Entries.finishEntries sub', ?_, ?_⟩
  · rw [Entries.lookup_finishEntries, hsub']
    rfl
  · rw [Entries.lookup_finishEntries, hkeeps key v hkey]
    rfl

end ApiSurvey.Toml
