import ApiSurvey.Command.Grammar
import ApiSurvey.Grouping.Key
import ApiSurvey.Number.Numeral
import ApiSurvey.Schema.Operation

/-!
# The commands and their arguments

Three commands: `reduce` groups the items of a response, `fields` describes the fields of a
component or of a request body, `completions` is for shells.
-/

namespace ApiSurvey.Command

open ApiSurvey.Schema (Operation)

structure ReduceArguments where
  /-- The file of the response; a hyphen stands for the standard input. -/
  response : String
  arrayPath : String
  groupBy : Option String
  fallbacks : List String
  normalizer : Option Normalizer
  top : Option Nat
  json : Bool
  config : Option String
deriving DecidableEq, Repr

/-- What fields are described. -/
inductive Target
  | component (name : String)
  | operation (operation : Operation)
deriving DecidableEq, Repr

structure FieldsArguments where
  /-- The file of the document; a hyphen stands for the standard input. -/
  document : String
  target : Target
  contentType : Option String
  maxDepth : Option Nat
  json : Bool
  config : Option String
deriving DecidableEq, Repr

inductive Invocation
  | reduce (arguments : ReduceArguments)
  | fields (arguments : FieldsArguments)
  | completions (shell : String)
deriving DecidableEq, Repr

/-! ## Values -/

/-- Why a text is no size. -/
inductive SizeError
  | empty
  | invalidDigit
  | tooLarge
deriving DecidableEq, Repr

def SizeError.message : SizeError → String
  | empty => "cannot parse integer from empty string"
  | invalidDigit => "invalid digit found in string"
  | tooLarge => "number too large to fit in target type"

/-- The size that the digits continue from `n`; the first digit that is none, or that makes the
number too large, decides. -/
def continueSize (n : Nat) : List Char → Except SizeError Nat
  | [] => .ok n
  | c :: cs =>
    match digitValue? 10 c with
    | none => .error .invalidDigit
    | some d => if n * 10 + d < sizeBound then continueSize (n * 10 + d) cs else .error .tooLarge

/-- The size that a text writes; a plus sign may stand in front. -/
def parseSize (text : String) : Except SizeError Nat :=
  match text.toList with
  | [] => .error .empty
  | ['+'] => .error .invalidDigit
  | '+' :: cs => continueSize 0 cs
  | cs => continueSize 0 cs

/-- A value that is the given one, for an option that was not given before. -/
def once {α : Type} (given : Option α) (read : String → Except UsageError α) (text : String) :
    Except UsageError α :=
  if given.isSome then .error .conflict else read text

def readText (text : String) : Except UsageError String :=
  .ok text

/-- A path has at least one character. -/
def readPath (text : String) : Except UsageError String :=
  if text.isEmpty then .error .invalidValue else .ok text

def readSize (text : String) : Except UsageError Nat :=
  (parseSize text).mapError fun e => .rejectedValue e.message

def readNormalizer (text : String) : Except UsageError Normalizer :=
  (Normalizer.parse text).mapError fun e => .rejectedValue e.message

def readOperation (text : String) : Except UsageError Operation :=
  (Operation.parse text).mapError fun e => .rejectedValue e.message

def shells : List String := ["bash", "elvish", "fish", "powershell", "zsh"]

def readShell (text : String) : Except UsageError String :=
  if shells.contains text then .ok text else .error .invalidValue

/-! ## Options -/

/-- An option whose value is kept in an optional field. -/
def valueSwitch {σ α : Type} (long : String) (short : Option Char)
    (get : σ → Option α) (put : σ → α → σ) (read : String → Except UsageError α) : Switch σ :=
  ⟨long, short, .value fun s text => (once (get s) read text).map (put s)⟩

def flagSwitch {σ : Type} (long : String) (short : Option Char)
    (get : σ → Bool) (set : σ → σ) : Switch σ :=
  ⟨long, short, .flag fun s => if get s then none else some (set s)⟩

def helpSwitch {σ : Type} : Switch σ :=
  ⟨"help", some 'h', .stop .help⟩

/-- The arguments of `reduce` read so far. -/
structure ReduceScan where
  response : Option String
  arrayPath : Option String
  groupBy : Option String
  fallbacks : List String
  normalizer : Option Normalizer
  top : Option Nat
  json : Bool
  config : Option String
  verbose : Bool

def ReduceScan.initial : ReduceScan :=
  ⟨none, none, none, [], none, none, false, none, false⟩

def reduceGrammar : Grammar ReduceScan where
  switches := [
    valueSwitch "array-path" (some 'a') (·.arrayPath) (fun s v => { s with arrayPath := some v })
      readText,
    valueSwitch "group-by" (some 'g') (·.groupBy) (fun s v => { s with groupBy := some v })
      readText,
    ⟨"fallback", some 'f', .value fun s v => .ok { s with fallbacks := s.fallbacks ++ [v] }⟩,
    valueSwitch "normalize" (some 'n') (·.normalizer)
      (fun s v => { s with normalizer := some v }) readNormalizer,
    valueSwitch "top" (some 't') (·.top) (fun s v => { s with top := some v }) readSize,
    flagSwitch "json" none (·.json) (fun s => { s with json := true }),
    valueSwitch "config" (some 'c') (·.config) (fun s v => { s with config := some v }) readPath,
    flagSwitch "verbose" (some 'v') (·.verbose) (fun s => { s with verbose := true }),
    helpSwitch]
  commands := []
  word := some fun s text => (readPath text).map fun v => { s with response := some v }

def ReduceScan.finish (s : ReduceScan) : Except UsageError ReduceArguments :=
  match s.response with
  | none => .error .missingArgument
  | some response => .ok {
      response := response
      arrayPath := s.arrayPath.getD ""
      groupBy := s.groupBy
      fallbacks := s.fallbacks
      normalizer := s.normalizer
      top := s.top
      json := s.json
      config := s.config }

/-- The arguments of `fields` read so far. -/
structure FieldsScan where
  document : Option String
  component : Option String
  operation : Option Operation
  contentType : Option String
  maxDepth : Option Nat
  json : Bool
  config : Option String
  verbose : Bool

def FieldsScan.initial : FieldsScan :=
  ⟨none, none, none, none, none, false, none, false⟩

def fieldsGrammar : Grammar FieldsScan where
  switches := [
    valueSwitch "component" none (·.component) (fun s v => { s with component := some v }) readText,
    valueSwitch "operation" none (·.operation) (fun s v => { s with operation := some v })
      readOperation,
    valueSwitch "content-type" none (·.contentType) (fun s v => { s with contentType := some v })
      readText,
    valueSwitch "max-depth" none (·.maxDepth) (fun s v => { s with maxDepth := some v }) readSize,
    flagSwitch "json" none (·.json) (fun s => { s with json := true }),
    valueSwitch "config" (some 'c') (·.config) (fun s v => { s with config := some v }) readPath,
    flagSwitch "verbose" (some 'v') (·.verbose) (fun s => { s with verbose := true }),
    helpSwitch]
  commands := []
  word := some fun s text => (readPath text).map fun v => { s with document := some v }

/-- A component and an operation exclude each other, and one of them is needed. -/
def FieldsScan.finish (s : FieldsScan) : Except UsageError FieldsArguments :=
  let complete (document : String) (target : Target) : FieldsArguments :=
    ⟨document, target, s.contentType, s.maxDepth, s.json, s.config⟩
  match s.component, s.operation, s.document with
  | some _, some _, _ => .error .conflict
  | some name, none, some document => .ok (complete document (.component name))
  | none, some operation, some document => .ok (complete document (.operation operation))
  | _, _, _ => .error .missingArgument

/-- The arguments of `completions` read so far. -/
structure CompletionsScan where
  shell : Option String
  verbose : Bool

def completionsGrammar : Grammar CompletionsScan where
  switches := [
    flagSwitch "verbose" (some 'v') (·.verbose) (fun s => { s with verbose := true }),
    helpSwitch]
  commands := []
  word := some fun s text => (readShell text).map fun v => { s with shell := some v }

/-! ## Commands -/

def commandNames : List String := ["reduce", "fields", "completions", "help"]

/-- The options in front of the command; only whether they are verbose is collected. -/
def mainGrammar : Grammar Bool where
  switches := [
    flagSwitch "verbose" (some 'v') id (fun _ => true),
    helpSwitch,
    ⟨"version", some 'V', .stop .version⟩]
  commands := commandNames
  word := none

/-- What asking for help about a command comes to. -/
def helpError (topic : List String) : UsageError :=
  match topic with
  | [] => .help
  | [name] => if commandNames.contains name then .help else .unknownCommand
  | _ => .unknownCommand

/-- The command that the arguments are. -/
def Invocation.parse (args : List String) : Except UsageError Invocation := do
  match ← mainGrammar.read false args with
  | (verbose, none) => .error (if verbose then .missingCommand else .noArguments)
  | (_, some ("reduce", args)) =>
    let (s, _) ← reduceGrammar.read .initial args
    return .reduce (← s.finish)
  | (_, some ("fields", args)) =>
    let (s, _) ← fieldsGrammar.read .initial args
    return .fields (← s.finish)
  | (_, some ("completions", args)) =>
    let (s, _) ← completionsGrammar.read ⟨none, false⟩ args
    match s.shell with
    | some shell => return .completions shell
    | none => .error .missingArgument
  | (_, some (_, args)) => .error (helpError args)

end ApiSurvey.Command
