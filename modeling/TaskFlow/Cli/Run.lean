import TaskFlow.Cli.Args
import TaskFlow.Cli.Summary
import TaskFlow.Dispatch.Compile
import TaskFlow.Document.Decode
import TaskFlow.Text.Blank

/-!
# A run of the command

- `FileAccess`: how a run reads and writes files, over any monad;
- `run`: the documents loaded and compiled, then summarised, printed or written; the outcome is a `Report`;
- `Failure.text`: an error with its causes, one on an indented line, several numbered;
- `logLimit`: the level of the option, or that of the environment.
-/

namespace TaskFlow

/-- How a run reads and writes files, each with the reason of a failure. -/
structure FileAccess (m : Type → Type) where
  read : String → m (Except String String)
  write : String → String → m (Except String Unit)

/-! ## Log level -/

/-- The level that the environment asks for, in any letter case. -/
def Level.ofEnvironment? (value : String) : Option Level :=
  let name := String.ofList ((Text.trim value.toList).map Char.toLower)
  if name = "warning" then some .warn else ofText? name

/-- The level up to which events are shown. -/
def logLimit (option : Option Level) (environment : Option String) : Level :=
  option.getD ((environment.bind Level.ofEnvironment?).getD .info)

/-! ## Failures -/

/-- Why a run failed: what went wrong, and its causes from the nearest to the deepest. -/
structure Failure where
  message : String
  causes : List String := []

namespace Failure

/-- The lines of a text, each behind a lead of its own. -/
def indented (first rest : String) (text : String) : String :=
  match text.splitOn "\n" with
  | [] => first
  | line :: lines => first ++ line ++ String.join (lines.map fun l => "\n" ++ rest ++ l)

/-- A cause with its number, right-aligned. -/
def numbered (i : Nat) (cause : String) : String :=
  let digits := toString i
  let pad := String.ofList (List.replicate (5 - digits.length) ' ')
  indented (pad ++ digits ++ ": ") "       " cause

def text (f : Failure) : String :=
  match f.causes with
  | [] => f.message
  | [cause] => f.message ++ "\n\nCaused by:\n" ++ indented "    " "    " cause
  | causes =>
    f.message ++ "\n\nCaused by:\n" ++ "\n".intercalate (causes.zipIdx.map fun (cause, i) => numbered i cause)

end Failure

/-- An error followed by what lies under it. -/
def Error.chain : Error → List String
  | .io reason => [(Error.io reason).message, reason]
  | e => [e.message]

/-! ## The run -/

/-- What a run leaves behind besides files. -/
structure Report where
  events : List Event
  stdout : String := ""
  failure : Option Failure := none

/-- What a finished run ends the command with. -/
def Report.exitCode (r : Report) : UInt32 := if r.failure.isSome then 1 else 0

section

variable {m : Type → Type} [Monad m] (files : FileAccess m)

/-- A document read from a file. -/
def loadDocument {α : Type} (event : Event) (parse : String → Option α) (path : String) : m (Logged Error α) := do
  match ← files.read path with
  | .error reason => return ⟨[event], .error (.io reason)⟩
  | .ok text =>
    match parse text with
    | none => return ⟨[event], .error .malformedDocument⟩
    | some a => return ⟨[event], .ok a⟩

/-- Flow documents in order, up to the first failure. -/
def loadFlows : List String → m (Logged Error (List FlowDocument))
  | [] => return ⟨[], .ok []⟩
  | path :: paths => do
    let first ← loadDocument files (.readingFlows path) FlowDocument.parse? path
    match first.result with
    | .error e => return ⟨first.events, .error e⟩
    | .ok doc =>
      let rest ← loadFlows paths
      return ⟨first.events ++ rest.events, rest.result.map (doc :: ·)⟩

/-- The nodes document, then the flow documents. -/
def loadDocuments (args : Args) : m (Logged Error Documents) := do
  let nodes ← loadDocument files (.readingNodes args.nodes) NodesDocument.parse? args.nodes
  match nodes.result with
  | .error e => return ⟨nodes.events, .error e⟩
  | .ok doc =>
    let flows ← loadFlows files args.flows
    return ⟨nodes.events ++ flows.events, flows.result.map fun docs => ⟨doc, docs⟩⟩

/-- The table printed, or written to a file. -/
def emit (events : List Event) (output : Option String) (table : DispatchTable) : m Report := do
  match output with
  | none => return { events := events, stdout := table.pretty ++ "\n" }
  | some path =>
    match ← files.write path table.pretty with
    | .ok () => return { events := events ++ [.tableWritten path table.fingerprint] }
    | .error reason =>
      return { events := events, failure := some ⟨s!"writing dispatch table to {path}", [reason]⟩ }

/-- A run of the command against the built-in functions. -/
def run (args : Args) : m Report := do
  let docs ← loadDocuments files args
  let config := docs.bind fun docs => docs.check.mapError fun e => .config (.declaration e)
  match config.result with
  | .error e =>
    return { events := config.events
             failure := some ⟨s!"loading configuration from {args.nodes}", e.chain⟩ }
  | .ok c =>
    let table := compile c Registry.builtin
    let events := config.events ++ table.events
    match table.result with
    | .error e => return { events := events, failure := some ⟨e.message, []⟩ }
    | .ok t =>
      if args.dryRun then return { events := events ++ [.dryRunComplete], stdout := t.summary }
      else emit files events args.output t

end

end TaskFlow
