import TaskFlow.Cli.Run
import TaskFlow.Cli.Usage

/-!
# The command

- `main`: the arguments parsed and run on the files of the machine; log lines and errors go to the error output.
-/

namespace TaskFlow

/-- A log line. -/
def Event.line (e : Event) : String :=
  e.level.label ++ " flowdag: " ++ " ".intercalate (e.message :: e.fields.map fun f => f.1 ++ "=" ++ f.2)

/-- The reason of a failure as the messages give it. -/
def reasonOf (e : IO.Error) : String :=
  match e with
  | .noFileOrDirectory .. => "No such file or directory (os error 2)"
  | e => toString e

/-- The files of the machine. -/
def machineFiles : FileAccess IO where
  read path := do
    try return .ok (← IO.FS.readFile path)
    catch e => return .error (reasonOf e)
  write path text := do
    try
      IO.FS.writeFile path text
      return .ok ()
    catch e => return .error (reasonOf e)

end TaskFlow

open TaskFlow in
def main (args : List String) : IO UInt32 := do
  match Args.parse args with
  | .error e =>
    if e.isRequest then IO.println e.message else IO.eprintln s!"error: {e.message}"
    return e.exitCode
  | .ok parsed =>
    let report ← run machineFiles parsed
    let limit := logLimit parsed.logLevel (← IO.getEnv "FLOWDAG_LOG")
    for event in report.events.filter fun event => limit.shownAt event.level do
      IO.eprintln event.line
    IO.print report.stdout
    if let some failure := report.failure then
      IO.eprintln s!"flowdag error: {failure.text}"
    return report.exitCode
