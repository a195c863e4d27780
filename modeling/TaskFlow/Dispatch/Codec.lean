import TaskFlow.Dispatch.Table
import TaskFlow.Document.Codec
import TaskFlow.Failure.Codec
import TaskFlow.Json.Parser
import TaskFlow.Json.Pointer

/-!
# Dispatch tables in JSON

- `DispatchTable.toJson` writes the fields of every record in a fixed order; `DispatchTable.pretty` is its text;
- `DispatchTable.ofDraft?` reads them back by name: unknown fields are left out of account, whatever they hold, a
  missing one fails unless null may stand for it, and `DispatchTable.parse?` does so from text.
-/

namespace TaskFlow

namespace CachePolicy

def toJson (p : CachePolicy) : Json := .str p.text

def ofDraft? (d : Json.Draft) : Option CachePolicy := (Json.variant? d).bind ofText?

end CachePolicy

namespace CacheSpec

def toJson (c : CacheSpec) : Json := .obj [
  ("policy", c.policy.toJson),
  ("max_cache_size", Json.ofNat c.maxSize)]

def ofDraft? (d : Json.Draft) : Option CacheSpec := do
  let fs ← Json.record? ["policy", "max_cache_size"] d
  return ⟨← Json.required? fs "policy" CachePolicy.ofDraft?, ← Json.required? fs "max_cache_size" Json.nat?⟩

end CacheSpec

namespace Sampling

def toJson (s : Sampling) : Json := .obj [
  ("function", s.function.toJson),
  ("args", Json.ofDict id s.args)]

def ofDraft? (d : Json.Draft) : Option Sampling := do
  let fs ← Json.record? ["function", "args"] d
  return ⟨← Json.required? fs "function" FunctionRef.ofDraft?, ← Json.required? fs "args" (Json.dict? Json.any?)⟩

end Sampling

namespace Foreach

def toJson (f : Foreach) : Json := .obj [
  ("function", f.function.toJson),
  ("propagate_result", f.propagateResult)]

def ofDraft? (d : Json.Draft) : Option Foreach := do
  let fs ← Json.record? ["function", "propagate_result"] d
  return ⟨← Json.required? fs "function" FunctionRef.ofDraft?, ← Json.required? fs "propagate_result" Json.bool?⟩

end Foreach

/-- A selective run without a plan. -/
def Selective.toJson (s : Selective) : Json := .obj [
  ("tasks", Json.ofNames s.tasks),
  ("run_subsequent", s.runSubsequent.toJson),
  ("follow_subflows", s.followSubflows)]

namespace SelectiveEntry

/-- Edge numbers by flow. -/
def planToJson (plan : Dict (List Nat)) : Json :=
  Json.ofDict (fun edges => .arr (edges.map Json.ofNat)) plan

def toJson (s : SelectiveEntry) : Json := .obj [
  ("tasks", Json.ofNames s.tasks),
  ("run_subsequent", s.runSubsequent.toJson),
  ("follow_subflows", s.followSubflows),
  ("plan", planToJson s.plan)]

def ofDraft? (d : Json.Draft) : Option SelectiveEntry := do
  let fs ← Json.record? ["tasks", "run_subsequent", "follow_subflows", "plan"] d
  return {
    tasks := ← Json.required? fs "tasks" Json.names?
    runSubsequent := ← Json.required? fs "run_subsequent" Propagation.ofDraft?
    followSubflows := ← Json.required? fs "follow_subflows" Json.bool?
    plan := ← Json.required? fs "plan" (Json.dict? (Json.listOf? Json.nat?)) }

end SelectiveEntry

namespace EdgeEntry

def toJson (e : EdgeEntry) : Json := .obj [
  ("from", Json.ofNames e.sources),
  ("to", Json.ofNames e.targets),
  ("condition", e.condition.toJson),
  ("condition_str", .str e.conditionText),
  ("foreach", Json.ofOption Foreach.toJson e.foreach),
  ("selective", Json.ofOption SelectiveEntry.toJson e.selective)]

def ofDraft? (d : Json.Draft) : Option EdgeEntry := do
  let fs ← Json.record? ["from", "to", "condition", "condition_str", "foreach", "selective"] d
  return {
    sources := ← Json.required? fs "from" Json.names?
    targets := ← Json.required? fs "to" Json.names?
    condition := ← Json.required? fs "condition" Guard.ofDraft?
    conditionText := ← Json.required? fs "condition_str" Json.string?
    foreach := ← Json.optional? fs "foreach" Foreach.ofDraft?
    selective := ← Json.optional? fs "selective" SelectiveEntry.ofDraft? }

end EdgeEntry

namespace FlowTable

/-- The names of the fields, in order. -/
def names : List String :=
  ["queue", "edges", "failures", "nowait", "eager_failures", "propagate_node_args", "propagate_parent",
    "propagate_parent_failures", "propagate_finished", "propagate_compound_finished", "propagate_failures",
    "propagate_compound_failures", "node_args_from_first", "throttling_secs", "sampling", "max_retry",
    "retry_countdown", "cache"]

def toJson (f : FlowTable) : Json := .obj [
  ("queue", .str f.queue),
  ("edges", .arr (f.edges.map EdgeEntry.toJson)),
  ("failures", f.failures.toJson),
  ("nowait", Json.ofNameSet f.nowait),
  ("eager_failures", Json.ofNameSet f.eagerFailures),
  ("propagate_node_args", f.propagation.nodeArgs.toJson),
  ("propagate_parent", f.propagation.parent.toJson),
  ("propagate_parent_failures", f.propagation.parentFailures.toJson),
  ("propagate_finished", f.propagation.finished.toJson),
  ("propagate_compound_finished", f.propagation.compoundFinished.toJson),
  ("propagate_failures", f.propagation.failures.toJson),
  ("propagate_compound_failures", f.propagation.compoundFailures.toJson),
  ("node_args_from_first", f.nodeArgsFromFirst),
  ("throttling_secs", Json.ofOption Json.ofWord64 f.throttling),
  ("sampling", f.sampling.toJson),
  ("max_retry", Json.ofWord32 f.maxRetry),
  ("retry_countdown", Json.ofWord32 f.retryCountdown),
  ("cache", Json.ofOption CacheSpec.toJson f.cache)]

def propagationOf? (fs : List (String × Json.Draft)) : Option PropagationFlags := do
  return {
    nodeArgs := ← Json.required? fs "propagate_node_args" Propagation.ofDraft?
    parent := ← Json.required? fs "propagate_parent" Propagation.ofDraft?
    parentFailures := ← Json.required? fs "propagate_parent_failures" Propagation.ofDraft?
    finished := ← Json.required? fs "propagate_finished" Propagation.ofDraft?
    compoundFinished := ← Json.required? fs "propagate_compound_finished" Propagation.ofDraft?
    failures := ← Json.required? fs "propagate_failures" Propagation.ofDraft?
    compoundFailures := ← Json.required? fs "propagate_compound_failures" Propagation.ofDraft? }

def ofDraft? (d : Json.Draft) : Option FlowTable := do
  let fs ← Json.record? names d
  return {
    queue := ← Json.required? fs "queue" Json.string?
    edges := ← Json.required? fs "edges" (Json.listOf? EdgeEntry.ofDraft?)
    failures := ← Json.required? fs "failures" FailureGraph.ofDraft?
    nowait := ← Json.required? fs "nowait" Json.nameSet?
    eagerFailures := ← Json.required? fs "eager_failures" Json.nameSet?
    propagation := ← propagationOf? fs
    nodeArgsFromFirst := ← Json.required? fs "node_args_from_first" Json.bool?
    throttling := ← Json.optional? fs "throttling_secs" Json.word64?
    sampling := ← Json.required? fs "sampling" Sampling.ofDraft?
    maxRetry := ← Json.required? fs "max_retry" Json.word32?
    retryCountdown := ← Json.required? fs "retry_countdown" Json.word32?
    cache := ← Json.optional? fs "cache" CacheSpec.ofDraft? }

end FlowTable

namespace TaskEntry

/-- The names of the fields, in order. -/
def names : List String :=
  ["class_name", "import", "queue", "storage", "storage_readonly", "storage_task_name", "max_retry",
    "retry_countdown", "throttling_secs", "selective_run_function", "output_schema"]

def toJson (t : TaskEntry) : Json := .obj [
  ("class_name", .str t.className),
  ("import", .str t.moduleName),
  ("queue", .str t.queue),
  ("storage", Json.ofOption .str t.storage),
  ("storage_readonly", t.storageReadonly),
  ("storage_task_name", .str t.storageTaskName),
  ("max_retry", Json.ofWord32 t.maxRetry),
  ("retry_countdown", Json.ofWord32 t.retryCountdown),
  ("throttling_secs", Json.ofOption Json.ofWord64 t.throttling),
  ("selective_run_function", Json.ofOption FunctionRef.toJson t.selectiveRunFunction),
  ("output_schema", Json.ofOption .str t.outputSchema)]

def ofDraft? (d : Json.Draft) : Option TaskEntry := do
  let fs ← Json.record? names d
  return {
    className := ← Json.required? fs "class_name" Json.string?
    moduleName := ← Json.required? fs "import" Json.string?
    queue := ← Json.required? fs "queue" Json.string?
    storage := ← Json.optional? fs "storage" Json.string?
    storageReadonly := ← Json.required? fs "storage_readonly" Json.bool?
    storageTaskName := ← Json.required? fs "storage_task_name" Json.string?
    maxRetry := ← Json.required? fs "max_retry" Json.word32?
    retryCountdown := ← Json.required? fs "retry_countdown" Json.word32?
    throttling := ← Json.optional? fs "throttling_secs" Json.word64?
    selectiveRunFunction := ← Json.optional? fs "selective_run_function" FunctionRef.ofDraft?
    outputSchema := ← Json.optional? fs "output_schema" Json.string? }

end TaskEntry

namespace StorageEntry

def toJson (s : StorageEntry) : Json := .obj [
  ("class_name", .str s.className),
  ("import", .str s.moduleName),
  ("configuration", s.configuration),
  ("cache", Json.ofOption CacheSpec.toJson s.cache)]

def ofDraft? (d : Json.Draft) : Option StorageEntry := do
  let fs ← Json.record? ["class_name", "import", "configuration", "cache"] d
  return {
    className := ← Json.required? fs "class_name" Json.string?
    moduleName := ← Json.required? fs "import" Json.string?
    configuration := ← Json.required? fs "configuration" Json.any?
    cache := ← Json.optional? fs "cache" CacheSpec.ofDraft? }

end StorageEntry

namespace GlobalSettings

def toJson (s : GlobalSettings) : Json := .obj [
  ("predicates_module", .str s.predicatesModule),
  ("default_task_queue", .str s.defaultTaskQueue),
  ("default_dispatcher_queue", .str s.defaultDispatcherQueue),
  ("trace_sinks", Json.ofNames s.traceSinks),
  ("migration_dir", Json.ofOption .str s.migrationDir)]

def ofDraft? (d : Json.Draft) : Option GlobalSettings := do
  let fs ← Json.record?
    ["predicates_module", "default_task_queue", "default_dispatcher_queue", "trace_sinks", "migration_dir"] d
  return {
    predicatesModule := ← Json.required? fs "predicates_module" Json.string?
    defaultTaskQueue := ← Json.required? fs "default_task_queue" Json.string?
    defaultDispatcherQueue := ← Json.required? fs "default_dispatcher_queue" Json.string?
    traceSinks := ← Json.required? fs "trace_sinks" Json.names?
    migrationDir := ← Json.optional? fs "migration_dir" Json.string? }

end GlobalSettings

namespace DispatchTable

def toJson (t : DispatchTable) : Json := .obj [
  ("fingerprint", .str t.fingerprint),
  ("global", t.settings.toJson),
  ("flows", Json.ofDict FlowTable.toJson t.flows),
  ("tasks", Json.ofDict TaskEntry.toJson t.tasks),
  ("storages", Json.ofDict StorageEntry.toJson t.storages)]

/-- The text of a table, indented. -/
def pretty (t : DispatchTable) : String := t.toJson.pretty

def ofDraft? (d : Json.Draft) : Option DispatchTable := do
  let fs ← Json.record? ["fingerprint", "global", "flows", "tasks", "storages"] d
  return {
    fingerprint := ← Json.required? fs "fingerprint" Json.string?
    settings := ← Json.required? fs "global" GlobalSettings.ofDraft?
    flows := ← Json.required? fs "flows" (Json.dict? FlowTable.ofDraft?)
    tasks := ← Json.required? fs "tasks" (Json.dict? TaskEntry.ofDraft?)
    storages := ← Json.required? fs "storages" (Json.dict? StorageEntry.ofDraft?) }

/-- The table that a text holds. -/
def parse? (text : String) : Option DispatchTable := (Json.Draft.parse? text).bind ofDraft?

/-- Whether two tables agree in every field. -/
def same (a b : DispatchTable) : Bool := a.toJson.same b.toJson

/-- The table whose JSON form has another value at a pointer. -/
def replaceAt? (value : Json) (pointer : String) (t : DispatchTable) : Option DispatchTable :=
  (Json.replaceAt? value pointer t.toJson.normalize).bind fun j => parse? j.compact

end DispatchTable

end TaskFlow
