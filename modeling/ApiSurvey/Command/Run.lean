import ApiSurvey.Command.Arguments
import ApiSurvey.Command.Report
import ApiSurvey.Json.Parser
import ApiSurvey.Settings.File

/-!
# Running a command

A run goes through three stages: it loads the settings, reads the document, and computes the
report.  The first stage that fails decides the failure, and then nothing is printed.  What the
arguments leave open is taken from the settings.
-/

namespace ApiSurvey.Command

open Grouping Schema

/-- What a run can read: the files, and the text on the standard input if it is one. -/
structure Surroundings where
  read : String → FileState
  stdin : Option String

/-- What a run prints. -/
structure Printed where
  stdout : String
  stderr : String
deriving DecidableEq, Repr

/-- Why there is no report. -/
inductive ReportError
  | unreadableInput
  | unreadable (path : String)
  | notJson (path : String)
  | noComponent (name : String)
  /-- The operation has no request body, or none of the type asked for; the operations that the
  document has are offered. -/
  | noRequestBody (operation : Operation) (contentType : Option String) (known : List Operation)
deriving DecidableEq, Repr

namespace ReportError

/-- The operations that are offered, a line each. -/
def offer (known : List Operation) : String :=
  match known with
  | [] => "  (none)"
  | known => "\n".intercalate (known.map fun o => "  " ++ o.render)

def message : ReportError → String
  | unreadableInput => "failed to read stdin"
  | unreadable path => "failed to read '" ++ path ++ "'"
  | notJson path => "'" ++ path ++ "' is not valid JSON"
  | noComponent name => "Component '" ++ name ++ "' does not exist"
  | noRequestBody operation contentType known =>
    "Operation '" ++ operation.render ++ "' has no request body"
      ++ contentType.elim "" (fun type => " of type '" ++ type ++ "'")
      ++ "\n\nAvailable operations:\n" ++ offer known

end ReportError

/-- Why a run fails. -/
inductive Failure
  | usage (error : UsageError)
  | settings (failure : Settings.Failure)
  | arrayNotFound (error : ArrayNotFound)
  | report (error : ReportError)
deriving DecidableEq, Repr

def Failure.message : Failure → String
  | usage error => error.message
  | settings failure => failure.message
  | arrayNotFound error => error.message
  | report error => error.message

/-- The exit code after a failure; asking for help or the version is none. -/
def Failure.exitCode : Failure → Nat
  | usage .help => 0
  | usage .version => 0
  | usage _ => 2
  | _ => 1

/-- The text of a document. -/
def documentText (around : Surroundings) (path : String) : Except ReportError String :=
  if isHyphen path then
    match around.stdin with
    | some text => .ok text
    | none => .error .unreadableInput
  else match (around.read path).text? with
    | some text => .ok text
    | none => .error (.unreadable path)

/-- The document at a path. -/
def readDocument (around : Surroundings) (path : String) : Except ReportError Json := do
  match Json.parse? (← documentText around path) with
  | some document => .ok document
  | none => .error (.notJson path)

namespace ReduceArguments

/-- The options that arguments and settings make together. -/
def options (a : ReduceArguments) (settings : Settings) : Options where
  arrayPath := a.arrayPath
  groupByPath := a.groupBy
  fallbacks := a.fallbacks
  normalizer := a.normalizer.getD settings.reduce.normalizer
  topN := a.top.getD settings.reduce.topN

/-- What is printed of a breakdown. -/
def printed (a : ReduceArguments) (b : Breakdown) : Printed :=
  if a.json then ⟨Report.ofLines [b.toJson.indented], ""⟩
  else ⟨Report.ofLines (Report.breakdownLines a.response b),
    Report.ofLines (Report.breakdownWarnings b)⟩

def run (a : ReduceArguments) (around : Surroundings) : Except Failure Printed := do
  let settings ← (Settings.load around.read a.config).mapError .settings
  let response ← (readDocument around a.response).mapError .report
  let result ← (breakdown response (a.options settings)).mapError .arrayNotFound
  return a.printed result

end ReduceArguments

namespace FieldsArguments

/-- What the report calls the target. -/
def targetText (a : FieldsArguments) : String :=
  match a.target with
  | .component name => "component " ++ name
  | .operation operation => operation.render

/-- The table of the target. -/
def table (a : FieldsArguments) (settings : Settings) (d : Document) :
    Except ReportError FieldTable :=
  let maxDepth := a.maxDepth.getD settings.schema.maxDepth
  match a.target with
  | .component name =>
    match componentTable? d maxDepth name with
    | some t => .ok t
    | none => .error (.noComponent name)
  | .operation operation =>
    let contentType := a.contentType.or settings.schema.contentType
    match operationTable? d maxDepth operation contentType with
    | some t => .ok t
    | none => .error (.noRequestBody operation contentType d.operations)

/-- What is printed of a table. -/
def printed (a : FieldsArguments) (t : FieldTable) : Printed :=
  if a.json then ⟨Report.ofLines [t.toJson.indented], ""⟩
  else ⟨Report.ofLines (Report.tableLines a.targetText t), ""⟩

def run (a : FieldsArguments) (around : Surroundings) : Except Failure Printed := do
  let settings ← (Settings.load around.read a.config).mapError .settings
  let document ← (readDocument around a.document).mapError .report
  let t ← (a.table settings ⟨document⟩).mapError .report
  return a.printed t

end FieldsArguments

/-- The files that a run may read. -/
def Invocation.files : Invocation → List String
  | .reduce a => [a.config.getD SettingsFile.defaultPath, a.response]
  | .fields a => [a.config.getD SettingsFile.defaultPath, a.document]
  | .completions _ => []

/-- The run of a command; no completion scripts are kept here, so nothing is printed of them. -/
def Invocation.run (around : Surroundings) : Invocation → Except Failure Printed
  | .reduce a => a.run around
  | .fields a => a.run around
  | .completions _ => .ok ⟨"", ""⟩

/-- The run of the command that the arguments are. -/
def run (args : List String) (around : Surroundings) : Except Failure Printed := do
  let invocation ← (Invocation.parse args).mapError .usage
  invocation.run around

/-- What is seen of a run when it is over. -/
structure Outcome where
  exitCode : Nat
  printed : Printed
deriving DecidableEq, Repr

/-- The message of a failure goes to the standard error, help and the version to the standard
output. -/
def Failure.outcome (failure : Failure) : Outcome :=
  if failure.exitCode = 0 then ⟨0, failure.message ++ "\n", ""⟩
  else ⟨failure.exitCode, "", failure.message ++ "\n"⟩

def outcome (args : List String) (around : Surroundings) : Outcome :=
  match run args around with
  | .ok printed => ⟨0, printed⟩
  | .error failure => failure.outcome

end ApiSurvey.Command
