import ApiSurvey.Text.Split

/-!
# Command lines

A command line is words and options.  An option has a long name after two hyphens and may have a
short one after a single hyphen; short flags may be joined, and a value may be attached to its
option or follow it.  Two hyphens alone end the options.

A value is not looked at before the argument after it has been recognised: of two mistakes the
unknown argument is reported rather than a wrong value in front of it.
-/

namespace ApiSurvey.Command

/-- Why the arguments are no command. -/
inductive UsageError
  /-- There are no arguments at all. -/
  | noArguments
  /-- There are options, but no command. -/
  | missingCommand
  | unknownCommand
  | missingArgument
  | unknownArgument
  /-- An option lacks its value, or the value is none that is possible. -/
  | invalidValue
  /-- A flag has a value. -/
  | surplusValue
  /-- An option is given twice, or together with one that it excludes. -/
  | conflict
  | rejectedValue (message : String)
  /-- Help was asked for. -/
  | help
  /-- The version was asked for. -/
  | version
deriving DecidableEq, Repr

def UsageError.message : UsageError → String
  | noArguments => "no command is given"
  | missingCommand => "no command is given"
  | unknownCommand => "there is no such command"
  | missingArgument => "an argument is missing"
  | unknownArgument => "there is no such argument"
  | invalidValue => "an option lacks its value, or the value is none of the possible ones"
  | surplusValue => "a flag has a value"
  | conflict => "an option is given twice, or together with one that it excludes"
  | rejectedValue message => message
  | help => "reduce RESPONSE [-a PATH] [-g PATH] [-f PATH]... [-n MODE] [-t COUNT] [--json]\n"
      ++ "       [-c FILE]\n"
      ++ "fields DOCUMENT (--component NAME | --operation OPERATION) [--content-type TYPE]\n"
      ++ "       [--max-depth LEVELS] [--json] [-c FILE]\n"
      ++ "completions SHELL"
  | version => "0.1.0"

/-- What an option does to the settings collected so far. -/
inductive Action (σ : Type)
  /-- It is given or not; nothing comes of a flag that was given before. -/
  | flag (set : σ → Option σ)
  | value (set : σ → String → Except UsageError σ)
  /-- It ends the reading of the arguments. -/
  | stop (reason : UsageError)

structure Switch (σ : Type) where
  long : String
  short : Option Char
  action : Action σ

/-- The arguments of a command: its options, the words that are commands of their own, and what
its one word means. -/
structure Grammar (σ : Type) where
  switches : List (Switch σ)
  commands : List String
  word : Option (σ → String → Except UsageError σ)

/-- A value that has been announced but not taken in. -/
inductive Pending (σ : Type)
  | none
  /-- An option whose value comes next. -/
  | awaited (set : σ → String → Except UsageError σ)
  | held (set : σ → String → Except UsageError σ) (value : String)

/-- What has been read of the arguments. -/
structure Scan (σ : Type) where
  collected : σ
  pending : Pending σ
  /-- Whether the word of the command has been read. -/
  wordRead : Bool
  /-- Whether the options have ended. -/
  trailing : Bool

namespace Scan

variable {σ : Type}

def start (initial : σ) : Scan σ :=
  ⟨initial, .none, false, false⟩

/-- The pending value taken in. -/
def resolve (s : Scan σ) : Except UsageError (Scan σ) :=
  match s.pending with
  | .none => .ok s
  | .awaited _ => .error .invalidValue
  | .held set value =>
    (set s.collected value).map fun c => { s with collected := c, pending := .none }

/-- A flag, or an option without attached value. -/
def take (s : Scan σ) (action : Action σ) : Except UsageError (Scan σ) := do
  let s ← s.resolve
  match action with
  | .flag set =>
    match set s.collected with
    | some c => return { s with collected := c }
    | none => .error .conflict
  | .value set => return { s with pending := .awaited set }
  | .stop reason => .error reason

/-- An option with an attached value. -/
def takeValue (s : Scan σ) (set : σ → String → Except UsageError σ) (value : String) :
    Except UsageError (Scan σ) := do
  let s ← s.resolve
  return { s with collected := ← set s.collected value }

/-- A long option, without its hyphens. -/
def long (g : Grammar σ) (s : Scan σ) (body : List Char) : Except UsageError (Scan σ) :=
  let parts := Text.splitOnce (· == '=') body
  let name := (parts.map Prod.fst).getD body
  match g.switches.find? (·.long.toList == name), parts.map Prod.snd with
  | none, _ => .error .unknownArgument
  | some switch, none => s.take switch.action
  | some switch, some value =>
    match switch.action with
    | .value set => s.takeValue set (String.ofList value)
    | _ => .error .surplusValue

/-- Joined short options, without their hyphen. -/
def short (g : Grammar σ) (s : Scan σ) : List Char → Except UsageError (Scan σ)
  | [] => .ok s
  | c :: cs =>
    match g.switches.find? (·.short == some c) with
    | none => .error .unknownArgument
    | some switch =>
      match switch.action, cs with
      | .value set, '=' :: value => s.takeValue set (String.ofList value)
      | .value set, v :: value => s.takeValue set (String.ofList (v :: value))
      | action, cs =>
        match s.take action with
        | .ok s => short g s cs
        | .error e => .error e

/-- A word that is no value of an option. -/
def takeWord (g : Grammar σ) (s : Scan σ) (word : String) : Except UsageError (Scan σ) :=
  match g.word, s.wordRead with
  | some set, false => s.resolve.map fun s => { s with pending := .held set word, wordRead := true }
  | _, _ =>
    if g.commands.isEmpty then .error .unknownArgument
    else if s.trailing && g.commands.contains word then .error .unknownArgument
    else .error .unknownCommand

/-- One argument further. -/
def argument (g : Grammar σ) (s : Scan σ) (arg : String) : Except UsageError (Scan σ) :=
  if s.trailing then s.takeWord g arg
  else match arg.toList with
    | ['-', '-'] => .ok { s with trailing := true }
    | '-' :: '-' :: body => s.long g body
    | '-' :: c :: body => s.short g (c :: body)
    | _ =>
      match s.pending with
      | .awaited set => .ok { s with pending := .held set arg }
      | _ => s.takeWord g arg

/-- The arguments up to a word that is a command, and that command with the arguments after it. -/
def all (g : Grammar σ) (s : Scan σ) : List String →
    Except UsageError (Scan σ × Option (String × List String))
  | [] => s.resolve.map fun s => (s, none)
  | arg :: args =>
    if !s.trailing && g.commands.contains arg then .ok (s, some (arg, args))
    else match s.argument g arg with
      | .ok s => all g s args
      | .error e => .error e

end Scan

/-- What the arguments collect, and the command among them with the arguments after it. -/
def Grammar.read {σ : Type} (g : Grammar σ) (initial : σ) (args : List String) :
    Except UsageError (σ × Option (String × List String)) :=
  ((Scan.start initial).all g args).map fun (s, command) => (s.collected, command)

end ApiSurvey.Command
