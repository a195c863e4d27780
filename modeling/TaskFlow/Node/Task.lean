import TaskFlow.Document.Basic
import TaskFlow.Log.Logged
import TaskFlow.Registry.Basic

/-!
# Tasks

- `Task`: a unit of work with its defaults filled in;
- `Task.ofDecl`: the task of a declaration; `TaskError` says what is wrong first, and settings without effect are
  reported.
-/

namespace TaskFlow

/-- A unit of work. -/
structure Task where
  name : String
  /-- Several tasks may share one class. -/
  className : String
  moduleName : String
  storage : Option String := none
  storageReadonly : Bool := false
  /-- The name that results are stored under. -/
  storageTaskName : String
  maxRetry : UInt32 := 0
  retryCountdown : UInt32 := 0
  queue : Option String := none
  /-- Seconds between two runs. -/
  throttling : Option UInt64 := none
  /-- Decides whether a task of a selective run really runs. -/
  selectiveRunFunction : Option FunctionRef := none
  outputSchema : Option String := none
deriving DecidableEq

/-- Why a declaration gives no task. -/
inductive TaskError where
  | unknownSelectiveRun (function : FunctionRef)
  | readonlyWithoutStorage
  | throttling (e : DurationError)
deriving DecidableEq

def TaskError.message : TaskError → String
  | unknownSelectiveRun f => s!"unknown selective run function '{f.text}'"
  | readonlyWithoutStorage => "storage_readonly is set but no storage is assigned"
  | throttling e => e.message

def FunctionDecl.ref (f : FunctionDecl) : FunctionRef := ⟨f.moduleName, f.name⟩

namespace Task

/-- A task with defaults for all but its name and its module. -/
def named (name moduleName : String) : Task where
  name := name
  className := name
  moduleName := moduleName
  storageTaskName := name

/-- The selective run function, which has to be registered. -/
def selectiveRunOf (registry : Registry) (decl : TaskDecl) : Except TaskError (Option FunctionRef) :=
  match decl.selectiveRunFunction with
  | none => .ok none
  | some f =>
    if registry.hasSelectiveRun f.ref then .ok (some f.ref) else .error (.unknownSelectiveRun f.ref)

def ofDecl (registry : Registry) (decl : TaskDecl) : Logged TaskError Task := do
  let selectiveRun ← Logged.ofExcept (selectiveRunOf registry decl)
  if decl.storageReadonly && decl.storage.isNone then Logged.fail .readonlyWithoutStorage
  Logged.reportIf (decl.storageTaskName.isSome && decl.storage.isNone) (.unusedStorageName decl.name)
  let throttling ← Logged.ofExcept ((DurationSpec.throttling decl.throttling).mapError .throttling)
  Logged.reportIf (throttling == some 0) (.zeroTaskThrottling decl.name)
  return {
    name := decl.name
    className := decl.className.getD decl.name
    moduleName := decl.moduleName
    storage := decl.storage
    storageReadonly := decl.storageReadonly
    storageTaskName := decl.storageTaskName.getD decl.name
    maxRetry := decl.maxRetry
    retryCountdown := decl.retryCountdown
    queue := decl.queue
    throttling := throttling
    selectiveRunFunction := selectiveRun
    outputSchema := decl.outputSchema }

end Task

end TaskFlow
