import ApiSurvey.Command.Run

/-!
# The program

Finds out what the files of a run hold, hands that to the run and prints what comes of it.
-/

open ApiSurvey ApiSurvey.Command

namespace ApiSurvey.Program

/-- What is found at a path. -/
def stateOf (path : String) : IO FileState := do
  try
    match String.fromUTF8? (← IO.FS.readBinFile path) with
    | some content => return .text content
    | none => return .unreadable
  catch
    | .noFileOrDirectory .. => return .missing
    | .inappropriateType .. => return .directory
    | _ => return .unreadable

/-- The text on the standard input, where a run reads it. -/
def standardInput (files : List String) : IO (Option String) := do
  if files.any isHyphen then
    return String.fromUTF8? (← (← IO.getStdin).readBinToEnd)
  else
    return none

end ApiSurvey.Program

open ApiSurvey.Program in
def main (args : List String) : IO UInt32 := do
  let files := ((Invocation.parse args).toOption.map Invocation.files).getD []
  let states ← files.mapM fun path => return (path, ← stateOf path)
  let around : Surroundings :=
    ⟨fun path => (states.lookup path).getD .missing, ← standardInput files⟩
  let outcome := Command.outcome args around
  IO.print outcome.printed.stdout
  IO.eprint outcome.printed.stderr
  return outcome.exitCode.toUInt32
