import ComplianceScanner.CommandLine.Usage

/-!
The program. It brings no transport to an API server, so a command that needs a cluster ends where a
client for it is to be made.
-/

namespace ComplianceScanner.Terminal

def readFile (path : String) : IO SelectionFile := do
  match ← (IO.FS.readBinFile path).toBaseIO with
  | .ok content => return .bytes content
  | .error (.noFileOrDirectory ..) => return .missing
  | .error (.inappropriateType _ 21 _) => return .directory
  | .error error => return .unreadable (toString error)

def readEnvironment : IO Environment :=
  Setting.all.filterMapM fun setting =>
    return (← IO.getEnv setting.environmentName).map (setting.environmentName, ·)

/-- The outside as a command finds it, with its file read already. -/
def readHost (invocation : Invocation) : IO (Host Unit) := do
  let content ← match invocation.configFile? with
    | some path => readFile path
    | none => pure .missing
  return { file := fun _ => content, cluster? := none, clock := .still, world := () }

def report : Ending → IO UInt32
  | .success lines => do
    lines.forM IO.println
    return 0
  | .failure failure => do
    IO.eprintln ("Error: " ++ failure.text)
    if let some text := failure.cause?.bind ScanError.message? then
      IO.eprintln ("\nCaused by:\n    " ++ text)
    return 1
  | .outOfSteps => return 1

end ComplianceScanner.Terminal

open ComplianceScanner

def main (arguments : List String) : IO UInt32 := do
  match Invocation.ofArguments? (← Terminal.readEnvironment) arguments with
  | none => do
    Usage.lines.forM IO.eprintln
    return 2
  | some invocation => do
    Terminal.report (invocation.execute (← Terminal.readHost invocation) 0)
