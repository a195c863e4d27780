import TaskFlow.Document.Basic
import TaskFlow.Toml.Parser
import TaskFlow.Toml.Record

/-!
# Documents from TOML

- `NodesDocument.ofToml?` and `FlowDocument.ofToml?`: the document that a value holds, none for an unknown key, a
  missing one without a default, or a value of the wrong type or size;
- `NodesDocument.parse?` and `FlowDocument.parse?`: the same from text, in which what follows a complete record or
  date-time is passed over;
- each record names its keys once, in the order in which an array gives them.
-/

namespace TaskFlow

open Toml

/-- A flag or a list of nodes. -/
def Propagation.ofToml? : Toml → Option Propagation
  | .bool on => some (.flag on)
  | t => (listOf? asString? t).map fun names => .nodes (NameSet.ofList names)

def DurationSpec.ofToml? (surplus : Surplus) (t : Toml) : Option DurationSpec := do
  let fs ← record? surplus ["days", "hours", "minutes", "seconds"] t
  return {
    days := ← default? fs "days" word64? 0
    hours := ← default? fs "hours" word64? 0
    minutes := ← default? fs "minutes" word64? 0
    seconds := ← default? fs "seconds" word64? 0 }

def FunctionDecl.ofToml? (surplus : Surplus) (t : Toml) : Option FunctionDecl := do
  let fs ← record? surplus ["name", "import"] t
  return {
    name := ← required? fs "name" asString?
    moduleName := ← required? fs "import" asString? }

def CacheDecl.ofToml? (surplus : Surplus) (t : Toml) : Option CacheDecl := do
  let fs ← record? surplus ["name", "import", "options"] t
  return {
    name := ← required? fs "name" asString?
    moduleName := ← optional? fs "import" asString?
    options := ← default? fs "options" (entries? surplus) [] }

/-! ## The nodes document -/

def GlobalDecl.ofToml? (surplus : Surplus) (t : Toml) : Option GlobalDecl := do
  let fs ← record? surplus
    ["predicates_module", "default_task_queue", "default_dispatcher_queue", "trace", "migration_dir"] t
  return {
    predicatesModule := ← optional? fs "predicates_module" asString?
    defaultTaskQueue := ← optional? fs "default_task_queue" asString?
    defaultDispatcherQueue := ← optional? fs "default_dispatcher_queue" asString?
    trace := ← default? fs "trace" (listOf? asString?) []
    migrationDir := ← optional? fs "migration_dir" asString? }

def TaskDecl.ofToml? (surplus : Surplus) (t : Toml) : Option TaskDecl := do
  let fs ← record? surplus
    ["name", "import", "classname", "storage", "storage_readonly", "storage_task_name", "max_retry",
      "retry_countdown", "queue", "throttling", "selective_run_function", "output_schema"] t
  return {
    name := ← required? fs "name" asString?
    moduleName := ← required? fs "import" asString?
    className := ← optional? fs "classname" asString?
    storage := ← optional? fs "storage" asString?
    storageReadonly := ← default? fs "storage_readonly" asBool? false
    storageTaskName := ← optional? fs "storage_task_name" asString?
    maxRetry := ← default? fs "max_retry" word32? 0
    retryCountdown := ← default? fs "retry_countdown" word32? 0
    queue := ← optional? fs "queue" asString?
    throttling := ← optional? fs "throttling" (DurationSpec.ofToml? surplus)
    selectiveRunFunction := ← optional? fs "selective_run_function" (FunctionDecl.ofToml? surplus)
    outputSchema := ← optional? fs "output_schema" asString? }

def StorageDecl.ofToml? (surplus : Surplus) (t : Toml) : Option StorageDecl := do
  let fs ← record? surplus ["name", "import", "classname", "configuration", "cache"] t
  return {
    name := ← required? fs "name" asString?
    moduleName := ← required? fs "import" asString?
    className := ← optional? fs "classname" asString?
    configuration := ← default? fs "configuration" (entries? surplus) []
    cache := ← optional? fs "cache" (CacheDecl.ofToml? surplus) }

def NodesDocument.ofToml? (surplus : Surplus) (t : Toml) : Option NodesDocument := do
  let fs ← record? surplus ["flows", "global", "tasks", "storages"] t
  return {
    flows := ← default? fs "flows" (listOf? asString?) []
    globals := ← default? fs "global" (GlobalDecl.ofToml? surplus) {}
    tasks := ← default? fs "tasks" (listOf? (TaskDecl.ofToml? surplus)) []
    storages := ← default? fs "storages" (listOf? (StorageDecl.ofToml? surplus)) [] }

def NodesDocument.parse? (text : String) : Option NodesDocument :=
  (Toml.parse? text).bind fun fields => ofToml? .ignored (.table fields)

/-! ## Flow documents -/

def ForeachDecl.ofToml? (surplus : Surplus) (t : Toml) : Option ForeachDecl := do
  let fs ← record? surplus ["function", "import", "propagate_result"] t
  return {
    function := ← required? fs "function" asString?
    moduleName := ← required? fs "import" asString?
    propagateResult := ← default? fs "propagate_result" asBool? false }

def SelectiveDecl.ofToml? (surplus : Surplus) (t : Toml) : Option SelectiveDecl := do
  let fs ← record? surplus ["tasks", "run_subsequent", "follow_subflows"] t
  return {
    tasks := ← required? fs "tasks" nameOrNames?
    runSubsequent := ← default? fs "run_subsequent" Propagation.ofToml? .off
    followSubflows := ← default? fs "follow_subflows" asBool? false }

def EdgeDecl.ofToml? (surplus : Surplus) (t : Toml) : Option EdgeDecl := do
  let fs ← record? surplus ["from", "to", "condition", "foreach", "selective"] t
  return {
    sources := ← optional? fs "from" nameOrNames?
    targets := ← optional? fs "to" nameOrNames?
    condition := ← optional? fs "condition" (any? surplus)
    foreach := ← optional? fs "foreach" (ForeachDecl.ofToml? surplus)
    selective := ← optional? fs "selective" (SelectiveDecl.ofToml? surplus) }

def FallbackDecl.ofToml? : Toml → Option FallbackDecl
  | .bool on => some (.flag on)
  | t => (nameOrNames? t).map .nodes

def FailureDecl.ofToml? (surplus : Surplus) (t : Toml) : Option FailureDecl := do
  let fs ← record? surplus ["nodes", "fallback", "propagate_failure", "condition"] t
  return {
    nodes := ← required? fs "nodes" nameOrNames?
    fallback := ← required? fs "fallback" FallbackDecl.ofToml?
    propagateFailure := ← default? fs "propagate_failure" asBool? false
    condition := ← optional? fs "condition" (any? surplus) }

def SamplingDecl.ofToml? (surplus : Surplus) (t : Toml) : Option SamplingDecl := do
  let fs ← record? surplus ["name", "import", "args"] t
  return {
    name := ← required? fs "name" asString?
    moduleName := ← optional? fs "import" asString?
    args := ← default? fs "args" (entries? surplus) [] }

/-- The keys of a flow definition. -/
def FlowDefinition.keys : List String :=
  ["name", "edges", "failures", "nowait", "eager_failures", "cache", "sampling", "throttling"] ++
    ({} : PropagationFlags).entries.map (·.1) ++
    ["node_args_from_first", "queue", "max_retry", "retry_countdown"]

def PropagationFlags.ofFields? (fs : List (String × Toml)) : Option PropagationFlags := do
  let flag key := default? fs key Propagation.ofToml? .off
  return {
    nodeArgs := ← flag "propagate_node_args"
    parent := ← flag "propagate_parent"
    parentFailures := ← flag "propagate_parent_failures"
    finished := ← flag "propagate_finished"
    compoundFinished := ← flag "propagate_compound_finished"
    failures := ← flag "propagate_failures"
    compoundFailures := ← flag "propagate_compound_failures" }

def FlowDefinition.ofToml? (surplus : Surplus) (t : Toml) : Option FlowDefinition := do
  let fs ← record? surplus FlowDefinition.keys t
  return {
    name := ← required? fs "name" asString?
    edges := ← default? fs "edges" (listOf? (EdgeDecl.ofToml? surplus)) []
    failures := ← default? fs "failures" (listOf? (FailureDecl.ofToml? surplus)) []
    nowait := ← default? fs "nowait" nameOrNames? []
    eagerFailures := ← default? fs "eager_failures" nameOrNames? []
    cache := ← optional? fs "cache" (CacheDecl.ofToml? surplus)
    sampling := ← optional? fs "sampling" (SamplingDecl.ofToml? surplus)
    throttling := ← optional? fs "throttling" (DurationSpec.ofToml? surplus)
    propagation := ← PropagationFlags.ofFields? fs
    nodeArgsFromFirst := ← default? fs "node_args_from_first" asBool? false
    queue := ← optional? fs "queue" asString?
    maxRetry := ← default? fs "max_retry" word32? 0
    retryCountdown := ← default? fs "retry_countdown" word32? 0 }

def FlowDocument.ofToml? (surplus : Surplus) (t : Toml) : Option FlowDocument := do
  let fs ← record? surplus ["flow-definitions"] t
  return { definitions := ← default? fs "flow-definitions" (listOf? (FlowDefinition.ofToml? surplus)) [] }

def FlowDocument.parse? (text : String) : Option FlowDocument :=
  (Toml.parse? text).bind fun fields => ofToml? .ignored (.table fields)

end TaskFlow
