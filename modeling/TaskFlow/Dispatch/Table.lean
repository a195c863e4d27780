import TaskFlow.System.Build

/-!
# Dispatch tables

- `DispatchTable`: all that a dispatcher needs, as plain data: conditions as guards, defaults filled in, and the plan of
  every selective edge;
- `FlowTable.ofFlow`, `TaskEntry.ofTask`, `StorageEntry.ofStorage`: the entries of a system's parts.
-/

namespace TaskFlow

/-- A selective run with its plan. -/
structure SelectiveEntry where
  tasks : List String
  runSubsequent : Propagation
  followSubflows : Bool
  /-- The numbers of the edges to fire, by flow. -/
  plan : Dict (List Nat)
deriving DecidableEq

structure EdgeEntry where
  sources : List String
  targets : List String
  condition : Guard
  /-- The text of the condition. -/
  conditionText : String
  foreach : Option Foreach
  selective : Option SelectiveEntry

structure FlowTable where
  /-- The queue of the flow's dispatcher. -/
  queue : String
  edges : List EdgeEntry
  failures : FailureGraph
  nowait : NameSet
  eagerFailures : NameSet
  propagation : PropagationFlags
  nodeArgsFromFirst : Bool
  throttling : Option UInt64
  sampling : Sampling
  maxRetry : UInt32
  retryCountdown : UInt32
  cache : Option CacheSpec

structure TaskEntry where
  className : String
  moduleName : String
  queue : String
  storage : Option String
  storageReadonly : Bool
  storageTaskName : String
  maxRetry : UInt32
  retryCountdown : UInt32
  throttling : Option UInt64
  selectiveRunFunction : Option FunctionRef
  outputSchema : Option String
deriving DecidableEq

structure StorageEntry where
  className : String
  moduleName : String
  configuration : Json
  cache : Option CacheSpec
deriving DecidableEq

/-- All that a dispatcher needs. -/
structure DispatchTable where
  /-- The digest of the table with an empty text in this place. -/
  fingerprint : String
  settings : GlobalSettings
  flows : Dict FlowTable
  tasks : Dict TaskEntry
  storages : Dict StorageEntry

/-! ## Entries of a system's parts -/

/-- The selective run of an edge into its only destination, with the plan that the system has for it. -/
def SelectiveEntry.ofEdge (s : System) (e : Edge) : Logged ConfigError (Option SelectiveEntry) :=
  match e.selective with
  | none => return none
  | some sel => do
    let plan ← s.selectivePlan (e.targets.headD "") sel.tasks sel.runSubsequent sel.followSubflows
    return some ⟨sel.tasks, sel.runSubsequent, sel.followSubflows, plan⟩

def EdgeEntry.ofEdge (s : System) (e : Edge) : Logged ConfigError EdgeEntry := do
  let selective ← SelectiveEntry.ofEdge s e
  return {
    sources := e.sources
    targets := e.targets
    condition := e.condition.guard
    conditionText := e.condition.render
    foreach := e.foreach
    selective := selective }

def FlowTable.ofFlow (s : System) (f : Flow) : Logged ConfigError FlowTable := do
  let edges ← Logged.forAll (EdgeEntry.ofEdge s) f.edges
  return {
    queue := (Node.flow f).queue s.settings
    edges := edges
    failures := f.failures
    nowait := f.nowait
    eagerFailures := f.eagerFailures
    propagation := f.propagation
    nodeArgsFromFirst := f.nodeArgsFromFirst
    throttling := f.throttling
    sampling := f.sampling
    maxRetry := f.maxRetry
    retryCountdown := f.retryCountdown
    cache := f.cache }

def TaskEntry.ofTask (settings : GlobalSettings) (t : Task) : TaskEntry where
  className := t.className
  moduleName := t.moduleName
  queue := (Node.task t).queue settings
  storage := t.storage
  storageReadonly := t.storageReadonly
  storageTaskName := t.storageTaskName
  maxRetry := t.maxRetry
  retryCountdown := t.retryCountdown
  throttling := t.throttling
  selectiveRunFunction := t.selectiveRunFunction
  outputSchema := t.outputSchema

def StorageEntry.ofStorage (s : Storage) : StorageEntry where
  className := s.className
  moduleName := s.moduleName
  configuration := s.configuration
  cache := s.cache

end TaskFlow
