import TaskFlow.Text.Quoted

/-!
# Log events

- `Level`: how urgent an event is; a run shows the events up to a level;
- `Event`: everything the compiler reports besides its result, with `Event.level`, `Event.message` and
  `Event.fields`.
-/

namespace TaskFlow

/-- How urgent an event is, the most urgent first. -/
inductive Level where
  | error
  | warn
  | info
  | debug
  | trace
deriving DecidableEq

namespace Level

def rank : Level → Nat
  | error => 0
  | warn => 1
  | info => 2
  | debug => 3
  | trace => 4

/-- The level as log lines show it. -/
def label : Level → String
  | error => "ERROR"
  | warn => "WARN"
  | info => "INFO"
  | debug => "DEBUG"
  | trace => "TRACE"

/-- Whether a run at level `limit` shows the events of a level. -/
def shownAt (limit level : Level) : Bool := level.rank ≤ limit.rank

end Level

/-- Something reported besides the result. -/
inductive Event where
  | readingNodes (path : String)
  | readingFlows (path : String)
  | emptyDefinition
  | unusedStorageName (task : String)
  | zeroTaskThrottling (task : String)
  | zeroFlowThrottling (flow : String)
  | shadowedRule (nodes : List String)
  | failureGraphBuilt (rules vertices : Nat)
  | flowBuilt (flow : String) (edges rules : Nat)
  | invalidDefinition (flow error : String)
  | failedValidation (flow error : String)
  | unstartedSubFlow (flow node : String)
  | idleFlag (flow flag : String)
  | unusedStorage (storage : String)
  | unusedTask (task : String)
  | systemBuilt (tasks flows storages : Nat)
  | selectiveRunPlanned (flow : String) (flows : Nat)
  | tableEmitted (fingerprint : String)
  | tableWritten (path fingerprint : String)
  | dryRunComplete
deriving DecidableEq

namespace Event

def level : Event → Level
  | invalidDefinition .. | failedValidation .. => .error
  | emptyDefinition | unusedStorageName .. | zeroTaskThrottling .. | zeroFlowThrottling .. | shadowedRule ..
  | unstartedSubFlow .. | idleFlag .. | unusedStorage .. | unusedTask .. => .warn
  | systemBuilt .. | tableWritten .. => .info
  | readingNodes .. | readingFlows .. | failureGraphBuilt .. | flowBuilt .. | selectiveRunPlanned ..
  | tableEmitted .. | dryRunComplete => .debug

def message : Event → String
  | readingNodes _ => "reading nodes document"
  | readingFlows _ => "reading flow document"
  | emptyDefinition => "at least one flow definition has no edges"
  | unusedStorageName _ => "storage_task_name has no effect without a storage"
  | zeroTaskThrottling _ | zeroFlowThrottling _ => "zero throttling has no effect"
  | shadowedRule _ => "failure rule follows an unconditional rule for the same nodes and never applies"
  | failureGraphBuilt .. => "built failure graph"
  | flowBuilt .. => "built flow"
  | invalidDefinition .. => "flow definition is invalid"
  | failedValidation .. => "flow failed validation"
  | unstartedSubFlow .. => "sub-flow is used as a source but never started in this flow"
  | idleFlag .. => "propagation flag has no effect without sub-flows"
  | unusedStorage _ => "storage is not used by any task"
  | unusedTask _ => "task is not referenced by any flow"
  | systemBuilt .. => "system built"
  | selectiveRunPlanned .. => "planned selective run"
  | tableEmitted _ => "emitted dispatch table"
  | tableWritten .. => "dispatch table written"
  | dryRunComplete => "dry-run complete (no table written)"

/-- What an event is about, by field name. -/
def fields : Event → List (String × String)
  | readingNodes path | readingFlows path => [("path", path)]
  | emptyDefinition | dryRunComplete => []
  | unusedStorageName task | zeroTaskThrottling task | unusedTask task => [("task", task)]
  | zeroFlowThrottling flow => [("flow", flow)]
  | shadowedRule nodes => [("nodes", Text.quoteList nodes)]
  | failureGraphBuilt rules vertices => [("rules", toString rules), ("vertices", toString vertices)]
  | flowBuilt flow edges rules =>
    [("flow", flow), ("edges", toString edges), ("failure_rules", toString rules)]
  | invalidDefinition flow error | failedValidation flow error => [("flow", flow), ("error", error)]
  | unstartedSubFlow flow node => [("flow", flow), ("node", node)]
  | idleFlag flow flag => [("flow", flow), ("flag", flag)]
  | unusedStorage storage => [("storage", storage)]
  | systemBuilt tasks flows storages =>
    [("tasks", toString tasks), ("flows", toString flows), ("storages", toString storages)]
  | selectiveRunPlanned flow flows => [("flow", flow), ("flows", toString flows)]
  | tableEmitted fingerprint => [("fingerprint", fingerprint)]
  | tableWritten path fingerprint => [("path", path), ("fingerprint", fingerprint)]

end Event

end TaskFlow
