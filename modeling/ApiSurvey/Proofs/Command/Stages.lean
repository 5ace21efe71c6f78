import ApiSurvey.Command.Run
import ApiSurvey.Proofs.Settings.Table
import Mathlib.Tactic.Common

/-!
# The stages of a run

A run with valid arguments goes through its stages in order, and the first one that fails is what
the run fails with: nothing is then printed on the standard output.  If none fails, the report is
the one that the arguments and the configuration decide together: each option is taken from its
flag, without the flag from the configuration, and where that does not set it either from the
default.  `Staged` says so as a relation, with a constructor for each stage that can be the last,
and the run is the only outcome in it.
-/

namespace ApiSurvey.Command

open Grouping Schema Settings

/-! ## What is configured -/

/-- The table that a run is configured by: that of the file asked for, else that of the default file
if there is one, else the empty table. -/
inductive Consulted (read : String → FileState) (asked : Option String) : Toml.Members → Prop
  | asked {path content : String} {members : Toml.Members} (h : asked = some path)
      (hread : read path = .text content) (hparse : Toml.parse? content = some members) :
      Consulted read asked members
  | found {content : String} {members : Toml.Members} (h : asked = none)
      (hread : read SettingsFile.defaultPath = .text content)
      (hparse : Toml.parse? content = some members) : Consulted read asked members
  | nothing (h : asked = none) (hmissing : (read SettingsFile.defaultPath).isFile = false) :
      Consulted read asked []

/-- A setting is taken from its flag, else from the configuration, else it is the default. -/
inductive Chosen {α : Type} (flag : Option α) (read : Toml.Value → Option α)
    (given : Option Toml.Value) (fallback : α) : α → Prop
  | flag {x : α} (h : flag = some x) : Chosen flag read given fallback x
  | configured {v : Toml.Value} {x : α} (h : flag = none) (hgiven : given = some v)
      (hread : read v = some x) : Chosen flag read given fallback x
  | fallback (h : flag = none) (hgiven : given = none) : Chosen flag read given fallback fallback

section Configuration

variable {read : String → FileState} {asked : Option String} {members : Toml.Members}
  {s : Settings}

lemma parse_eq_ok {text file : String} (h : Settings.parse text file = .ok s) :
    ∃ members, Toml.parse? text = some members ∧ ofTable? members = some s := by
  unfold Settings.parse at h
  split at h
  · contradiction
  · next found hfound =>
    split at h
    · contradiction
    · obtain rfl : found = s := Except.ok.inj h
      exact Option.bind_eq_some_iff.1 hfound

lemma settingsFile_load_eq_ok {path : String} {file : SettingsFile}
    (h : SettingsFile.load read path = .ok file) :
    ∃ content members, read path = .text content ∧ Toml.parse? content = some members
      ∧ ofTable? members = some file.settings := by
  rw [SettingsFile.load] at h
  split at h
  · contradiction
  · next content hcontent =>
    have hread : read path = .text content := by
      cases hstate : read path <;> simp_all [FileState.text?]
    cases hparse : Settings.parse content path with
    | error failure =>
      rw [hparse] at h
      contradiction
    | ok s =>
      rw [hparse] at h
      obtain rfl : SettingsFile.mk path content s = file := Except.ok.inj h
      obtain ⟨members, hmembers, hdescribed⟩ := parse_eq_ok hparse
      exact ⟨content, members, hread, hmembers, hdescribed⟩

/-- Settings that were loaded are those that some consulted table describes. -/
lemma consulted_of_load (h : Settings.load read asked = .ok s) :
    ∃ members, Consulted read asked members ∧ ofTable? members = some s := by
  have hfile : ∀ path, (SettingsFile.load read path).map SettingsFile.settings = .ok s →
      ∃ content members, read path = .text content ∧ Toml.parse? content = some members
        ∧ ofTable? members = some s := by
    intro path hload
    cases hfound : SettingsFile.load read path with
    | error failure =>
      rw [hfound] at hload
      contradiction
    | ok file =>
      rw [hfound] at hload
      obtain rfl : file.settings = s := Except.ok.inj hload
      exact settingsFile_load_eq_ok hfound
  cases asked with
  | some path =>
    obtain ⟨content, members, hread, hparse, hdescribed⟩ := hfile path h
    exact ⟨members, .asked rfl hread hparse, hdescribed⟩
  | none =>
    rw [Settings.load] at h
    split at h
    · obtain ⟨content, members, hread, hparse, hdescribed⟩ := hfile _ h
      exact ⟨members, .found rfl hread hparse, hdescribed⟩
    · next hmissing =>
      obtain rfl : default = s := Except.ok.inj h
      exact ⟨[], .nothing rfl (Bool.eq_false_iff.2 hmissing), rfl⟩

/-- A run consults one table. -/
lemma Consulted.unique {members' : Toml.Members} (h : Consulted read asked members)
    (h' : Consulted read asked members') : members = members' := by
  cases h <;> cases h' <;> simp_all [FileState.isFile]

variable {α : Type} {flag : Option α} {field : Toml.Value → Option α}
  {given : Option Toml.Value} {fallback x y : α}

/-- With a configuration that describes the setting as `y` there is one choice. -/
lemma chosen_iff (h : setting? field fallback given = some y) :
    Chosen flag field given fallback x ↔ x = flag.getD y := by
  constructor
  · intro hchosen
    cases hchosen with
    | flag hflag => rw [hflag, Option.getD_some]
    | configured hflag hgiven hread =>
      rw [hgiven] at h
      have hy : some x = some y := hread.symm.trans h
      rw [hflag, Option.getD_none, Option.some.inj hy]
    | fallback hflag hgiven =>
      rw [hgiven] at h
      rw [hflag, Option.getD_none]
      exact Option.some.inj h
  · rintro rfl
    cases hflag : flag with
    | some z => exact .flag rfl
    | none =>
      cases hgiven : given with
      | some v =>
        rw [hgiven] at h
        exact .configured rfl rfl h
      | none =>
        rw [hgiven] at h
        obtain rfl : fallback = y := Option.some.inj h
        exact .fallback rfl rfl

end Configuration

/-! ## What is reported -/

/-- The options of a breakdown are those that arguments and configuration decide. -/
structure ReduceChoice (a : ReduceArguments) (members : Toml.Members) (o : Options) : Prop where
  arrayPath : o.arrayPath = a.arrayPath
  groupByPath : o.groupByPath = a.groupBy
  fallbacks : o.fallbacks = a.fallbacks
  normalizer : Chosen a.normalizer normalizer? (given? members "reduce" reduceNames "normalize")
    .lowerTrim o.normalizer
  topN : Chosen a.top size? (given? members "reduce" reduceNames "top_n") Options.defaultTopN o.topN

/-- What a run of `reduce` comes to with a configuration table and a response. -/
inductive ReduceReport (a : ReduceArguments) (members : Toml.Members) (response : Json) :
    Except Failure Printed → Prop
  | arrayNotFound {o : Options} {error : ArrayNotFound} (ho : ReduceChoice a members o)
      (h : breakdown response o = .error error) :
      ReduceReport a members response (.error (.arrayNotFound error))
  | breakdown {o : Options} {b : Breakdown} (ho : ReduceChoice a members o)
      (h : breakdown response o = .ok b) :
      ReduceReport a members response
        (.ok (if a.json then ⟨b.toJson.indented ++ "\n", ""⟩ else a.printed b))

/-- The table of fields of a target. -/
def Target.table? (d : Document) (maxDepth : Nat) (contentType : Option String) :
    Target → Option FieldTable
  | .component name => componentTable? d maxDepth name
  | .operation o => operationTable? d maxDepth o contentType

/-- What is wrong with a target that has no table. -/
def Target.absence (d : Document) (contentType : Option String) : Target → ReportError
  | .component name => .noComponent name
  | .operation o => .noRequestBody o contentType d.operations

/-- The depth and the media type of a table are those that arguments and configuration decide. -/
structure FieldsChoice (a : FieldsArguments) (members : Toml.Members) (maxDepth : Nat)
    (contentType : Option String) : Prop where
  maxDepth : Chosen a.maxDepth size? (given? members "schema" schemaNames "max_depth")
    defaultMaxDepth maxDepth
  contentType : Chosen (a.contentType.map some) optionalText?
    (given? members "schema" schemaNames "content_type") none contentType

/-- What a run of `fields` comes to with a configuration table and a document. -/
inductive FieldsReport (a : FieldsArguments) (members : Toml.Members) (document : Json) :
    Except Failure Printed → Prop
  | absent {maxDepth : Nat} {contentType : Option String}
      (hchoice : FieldsChoice a members maxDepth contentType)
      (h : a.target.table? ⟨document⟩ maxDepth contentType = none) :
      FieldsReport a members document
        (.error (.report (a.target.absence ⟨document⟩ contentType)))
  | table {maxDepth : Nat} {contentType : Option String} {t : FieldTable}
      (hchoice : FieldsChoice a members maxDepth contentType)
      (h : a.target.table? ⟨document⟩ maxDepth contentType = some t) :
      FieldsReport a members document
        (.ok (if a.json then ⟨t.toJson.indented ++ "\n", ""⟩ else a.printed t))

/-- What a run comes to that is configured by the file `config`, reads the document at `source` and
reports what is in `report`. -/
inductive Staged (around : Surroundings) (config : Option String) (source : String)
    (report : Toml.Members → Json → Except Failure Printed → Prop) :
    Except Failure Printed → Prop
  | settings {failure : Settings.Failure}
      (h : Settings.load around.read config = .error failure) :
      Staged around config source report (.error (.settings failure))
  | document {s : Settings} {error : ReportError} (hs : Settings.load around.read config = .ok s)
      (h : readDocument around source = .error error) :
      Staged around config source report (.error (.report error))
  | report {s : Settings} {members : Toml.Members} {document : Json}
      {result : Except Failure Printed} (hs : Settings.load around.read config = .ok s)
      (hconsulted : Consulted around.read config members)
      (hdocument : readDocument around source = .ok document)
      (h : report members document result) : Staged around config source report result

/-! ## The run is staged -/

section Report

variable {members : Toml.Members} {s : Settings} {result : Except Failure Printed}

/-- With the settings that a table describes there is one choice of options. -/
lemma reduceChoice_iff {a : ReduceArguments} {o : Options} (hs : ofTable? members = some s) :
    ReduceChoice a members o ↔ o = a.options s := by
  have hdescribed := describedBy_of_ofTable? hs
  constructor
  · intro h
    obtain ⟨arrayPath, groupByPath, fallbacks, normalizer, topN⟩ := o
    obtain ⟨harray, hgroup, hfallbacks, hnormalizer, htop⟩ := h
    rw [chosen_iff hdescribed.normalizer] at hnormalizer
    rw [chosen_iff hdescribed.topN] at htop
    rw [ReduceArguments.options, Options.mk.injEq]
    exact ⟨harray, hgroup, hfallbacks, hnormalizer, htop⟩
  · rintro rfl
    exact ⟨rfl, rfl, rfl, (chosen_iff hdescribed.normalizer).2 rfl,
      (chosen_iff hdescribed.topN).2 rfl⟩

lemma ofLines_singleton (line : String) : Report.ofLines [line] = line ++ "\n" := by
  simp [Report.ofLines, String.join]

lemma reduceReport_iff {a : ReduceArguments} {response : Json} (hs : ofTable? members = some s) :
    (do
      let b ← (breakdown response (a.options s)).mapError .arrayNotFound
      return a.printed b) = result ↔ ReduceReport a members response result := by
  have hchoice : ReduceChoice a members (a.options s) := (reduceChoice_iff hs).2 rfl
  have hprinted : ∀ b, (if a.json then ⟨b.toJson.indented ++ "\n", ""⟩ else a.printed b)
      = a.printed b := by
    intro b
    by_cases hjson : a.json <;> simp [hjson, ReduceArguments.printed, ofLines_singleton]
  constructor
  · rintro rfl
    cases h : breakdown response (a.options s) with
    | error error => exact .arrayNotFound hchoice h
    | ok b =>
      have hreport := ReduceReport.breakdown hchoice h
      rw [hprinted] at hreport
      exact hreport
  · intro hreport
    cases hreport with
    | arrayNotFound ho h =>
      obtain rfl := (reduceChoice_iff hs).1 ho
      rw [h]
      rfl
    | breakdown ho h =>
      obtain rfl := (reduceChoice_iff hs).1 ho
      rw [h, hprinted]
      rfl

lemma Target.table_eq {a : FieldsArguments} {d : Document} :
    a.table s d = (match a.target.table? d (a.maxDepth.getD s.schema.maxDepth)
        (a.contentType.or s.schema.contentType) with
      | some t => .ok t
      | none => .error (a.target.absence d (a.contentType.or s.schema.contentType))) := by
  rw [FieldsArguments.table]
  cases htarget : a.target <;> rfl

/-- With the settings that a table describes there is one choice of a depth and a media type. -/
lemma fieldsChoice_iff {a : FieldsArguments} {maxDepth : Nat} {contentType : Option String}
    (hs : ofTable? members = some s) :
    FieldsChoice a members maxDepth contentType ↔
      maxDepth = a.maxDepth.getD s.schema.maxDepth
        ∧ contentType = a.contentType.or s.schema.contentType := by
  have hdescribed := describedBy_of_ofTable? hs
  have hor : (a.contentType.map some).getD s.schema.contentType
      = a.contentType.or s.schema.contentType := by
    cases a.contentType <;> rfl
  rw [← hor]
  constructor
  · intro h
    exact ⟨(chosen_iff hdescribed.maxDepth).1 h.maxDepth,
      (chosen_iff hdescribed.contentType).1 h.contentType⟩
  · rintro ⟨hdepth, htype⟩
    exact ⟨(chosen_iff hdescribed.maxDepth).2 hdepth,
      (chosen_iff hdescribed.contentType).2 htype⟩

lemma fieldsReport_iff {a : FieldsArguments} {document : Json} (hs : ofTable? members = some s) :
    (do
      let t ← (a.table s ⟨document⟩).mapError .report
      return a.printed t) = result ↔ FieldsReport a members document result := by
  have hchoice := (fieldsChoice_iff (a := a) hs).2 ⟨rfl, rfl⟩
  have hprinted : ∀ t, (if a.json then ⟨t.toJson.indented ++ "\n", ""⟩ else a.printed t)
      = a.printed t := by
    intro t
    by_cases hjson : a.json <;> simp [hjson, FieldsArguments.printed, ofLines_singleton]
  rw [Target.table_eq]
  constructor
  · rintro rfl
    cases h : a.target.table? ⟨document⟩ (a.maxDepth.getD s.schema.maxDepth)
        (a.contentType.or s.schema.contentType) with
    | none => exact .absent hchoice h
    | some t =>
      have hreport := FieldsReport.table hchoice h
      rw [hprinted] at hreport
      exact hreport
  · intro hreport
    cases hreport with
    | absent hchoice h =>
      obtain ⟨rfl, rfl⟩ := (fieldsChoice_iff hs).1 hchoice
      rw [h]
      rfl
    | table hchoice h =>
      obtain ⟨rfl, rfl⟩ := (fieldsChoice_iff hs).1 hchoice
      rw [h, hprinted]
      rfl

end Report

section Run

variable {around : Surroundings} {config : Option String} {source : String}
  {report : Toml.Members → Json → Except Failure Printed → Prop}
  {result : Except Failure Printed}

/-- Going through the stages in order gives the one result that is staged. -/
lemma stages_eq_iff {last : Settings → Json → Except Failure Printed}
    (hlast : ∀ members s document, ofTable? members = some s →
      (last s document = result ↔ report members document result)) :
    (do
      let s ← (Settings.load around.read config).mapError .settings
      let document ← (readDocument around source).mapError .report
      last s document) = result ↔ Staged around config source report result := by
  cases hs : Settings.load around.read config with
  | error failure =>
    constructor
    · rintro rfl
      exact .settings hs
    · intro h
      cases h with
      | settings h =>
        rw [hs, Except.error.injEq] at h
        rw [h]
        rfl
      | document h _ => simp [hs] at h
      | report h _ _ _ => simp [hs] at h
  | ok s =>
    obtain ⟨members, hconsulted, hdescribed⟩ := consulted_of_load hs
    cases hdocument : readDocument around source with
    | error error =>
      constructor
      · rintro rfl
        exact .document hs hdocument
      · intro h
        cases h with
        | settings h => simp [hs] at h
        | document _ h =>
          rw [hdocument, Except.error.injEq] at h
          rw [h]
          rfl
        | report _ _ h _ => simp [hdocument] at h
    | ok document =>
      have hreport := hlast members s document hdescribed
      constructor
      · intro h
        exact .report hs hconsulted hdocument (hreport.1 h)
      · intro h
        cases h with
        | settings h => simp [hs] at h
        | document _ h => simp [hdocument] at h
        | report _ hconsulted' hdocument' h =>
          obtain rfl := hconsulted.unique hconsulted'
          obtain rfl : document = _ := Except.ok.inj (hdocument.symm.trans hdocument')
          exact hreport.2 h

lemma reduce_run_eq_iff {a : ReduceArguments} :
    a.run around = result ↔ Staged around a.config a.response (ReduceReport a) result :=
  stages_eq_iff fun _ _ _ hs => reduceReport_iff hs

lemma fields_run_eq_iff {a : FieldsArguments} :
    a.run around = result ↔ Staged around a.config a.document (FieldsReport a) result :=
  stages_eq_iff fun _ _ _ hs => fieldsReport_iff hs

/-- No stage fails for help or a wrong usage. -/
lemma exitCode_of_run {invocation : Invocation} {failure : Failure}
    (h : invocation.run around = .error failure) : failure.exitCode = 1 := by
  cases invocation with
  | reduce a =>
    cases reduce_run_eq_iff.1 h with
    | settings | document => rfl
    | report _ _ _ hreport =>
      cases hreport
      rfl
  | fields a =>
    cases fields_run_eq_iff.1 h with
    | settings | document => rfl
    | report _ _ _ hreport =>
      cases hreport
      rfl
  | completions shell => contradiction

end Run

/-- **The stages of a run.**  With valid arguments a run comes to what its stages in order come to,
and to nothing else: it fails with the first stage that fails, and then nothing is printed on the
standard output; if no stage fails, it reports what its arguments and the configuration that it
consults decide.  Completions are not reported in stages. -/
theorem run_staged (args : List String) (around : Surroundings) :
    (∀ a, Invocation.parse args = .ok (.reduce a) → ∀ result,
      run args around = result ↔ Staged around a.config a.response (ReduceReport a) result)
    ∧ (∀ a, Invocation.parse args = .ok (.fields a) → ∀ result,
      run args around = result ↔ Staged around a.config a.document (FieldsReport a) result)
    ∧ (∀ invocation, Invocation.parse args = .ok invocation →
      (∀ shell, invocation ≠ .completions shell) →
      outcome args around = match run args around with
        | .ok printed => ⟨0, printed⟩
        | .error failure => ⟨1, "", failure.message ++ "\n"⟩) := by
  have hrun : ∀ invocation, Invocation.parse args = .ok invocation →
      run args around = invocation.run around := by
    intro invocation h
    rw [run, h]
    rfl
  refine ⟨fun a ha result => ?_, fun a ha result => ?_, fun invocation h _ => ?_⟩
  · rw [hrun _ ha]
    exact reduce_run_eq_iff
  · rw [hrun _ ha]
    exact fields_run_eq_iff
  · rw [outcome]
    cases hresult : run args around with
    | ok printed => rfl
    | error failure =>
      have hcode : failure.exitCode = 1 := exitCode_of_run ((hrun _ h).symm.trans hresult)
      show failure.outcome = _
      rw [Failure.outcome, hcode]
      rfl

/-- A working directory with a configuration and an interface description. -/
def petFolder : Surroundings where
  read := fun path =>
    if path = "lens.toml" then .text "schema.max_depth = 1"
    else if path = "api.json" then
      .text "\x7b\"components\":\x7b\"schemas\":\x7b\"Pet\":\x7b\"items\":\x7b\x7d\x7d\x7d\x7d\x7d"
    else .missing
  stdin := none

def petFields : FieldsArguments :=
  ⟨"api.json", .component "Pet", none, none, true, none⟩

def petGroups : ReduceArguments :=
  ⟨"pets.json", "", none, [], none, none, true, none⟩

/-- In the directory one run reports the table of a component, and another one fails because its
document is not there. -/
theorem run_staged_pets :
    Invocation.parse ["fields", "api.json", "--component", "Pet", "--json"]
        = .ok (.fields petFields)
      ∧ Staged petFolder none "api.json" (FieldsReport petFields)
        (.ok ⟨"\x7b\n  \"examples\": \x7b\x7d,\n  \"enums\": \x7b\x7d,\n"
          ++ "  \"required\": [],\n  \"readOnlyFields\": []\n\x7d\n", ""⟩)
      ∧ Invocation.parse ["reduce", "pets.json", "--json"] = .ok (.reduce petGroups)
      ∧ Staged petFolder none "pets.json" (ReduceReport petGroups)
        (.error (.report (.unreadable "pets.json")))
      ∧ outcome ["reduce", "pets.json", "--json"] petFolder
        = ⟨1, "", "failed to read 'pets.json'\n"⟩ := by
  obtain ⟨-, hfields, -⟩ :=
    run_staged ["fields", "api.json", "--component", "Pet", "--json"] petFolder
  obtain ⟨hreduce, -, houtcome⟩ := run_staged ["reduce", "pets.json", "--json"] petFolder
  have hfieldsParse : Invocation.parse ["fields", "api.json", "--component", "Pet", "--json"]
      = .ok (.fields petFields) := by decide +kernel
  have hreduceParse : Invocation.parse ["reduce", "pets.json", "--json"]
      = .ok (.reduce petGroups) := by decide +kernel
  have hrun : run ["reduce", "pets.json", "--json"] petFolder
      = .error (.report (.unreadable "pets.json")) := by decide +kernel
  refine ⟨hfieldsParse, (hfields _ hfieldsParse _).1 (by decide +kernel), hreduceParse,
    (hreduce _ hreduceParse _).1 hrun, ?_⟩
  rw [houtcome _ hreduceParse nofun, hrun]
  rfl

end ApiSurvey.Command
