import TaskFlow.Data.NameSet
import TaskFlow.Number.Word
import TaskFlow.Toml.Basic

/-!
# Configuration documents

- `NodesDocument`: the tasks, storages and flow names of a configuration and its global settings;
- `FlowDocument`: flow definitions with their edges and failure rules;
- `Propagation`: a flag for every node, or the nodes that it holds for;
- `DurationSpec.seconds?`: the length of a duration, absent when it is no 64-bit count of seconds, which is the error
  of `DurationSpec.throttling`.
-/

namespace TaskFlow

/-! ## Values of several declarations -/

/-- A flag for every node, or the nodes that it holds for. -/
inductive Propagation where
  | flag (on : Bool)
  | nodes (names : NameSet)
deriving DecidableEq

namespace Propagation

def off : Propagation := .flag false

def appliesTo (p : Propagation) (node : String) : Bool :=
  match p with
  | .flag on => on
  | .nodes names => names.contains node

/-- Whether the flag can hold for any node. -/
def isSet : Propagation → Bool
  | .flag on => on
  | .nodes names => !names.isEmpty

/-- The nodes given by name. -/
def named : Propagation → List String
  | .flag _ => []
  | .nodes names => names.names

end Propagation

/-- A duration in parts. -/
structure DurationSpec where
  days : UInt64 := 0
  hours : UInt64 := 0
  minutes : UInt64 := 0
  seconds : UInt64 := 0
deriving DecidableEq

/-- The whole length in seconds. -/
def DurationSpec.seconds? (d : DurationSpec) : Option UInt64 := do
  let days ← Word.checkedMul d.days 86400
  let hours ← Word.checkedMul d.hours 3600
  let minutes ← Word.checkedMul d.minutes 60
  let sum ← Word.checkedAdd days hours
  let sum ← Word.checkedAdd sum minutes
  Word.checkedAdd sum d.seconds

/-- Why a duration has no length. -/
inductive DurationError where
  | tooLong
deriving DecidableEq

def DurationError.message : DurationError → String
  | tooLong => "throttling duration is too large"

/-- The seconds between two runs, where a duration is given. -/
def DurationSpec.throttling : Option DurationSpec → Except DurationError (Option UInt64)
  | none => .ok none
  | some d =>
    match d.seconds? with
    | some seconds => .ok (some seconds)
    | none => .error .tooLong

/-- A function named in a document. -/
structure FunctionDecl where
  name : String
  moduleName : String
deriving DecidableEq

/-- A cache: its policy, the module it is taken out of, and its options. -/
structure CacheDecl where
  name : String
  moduleName : Option String := none
  options : List (String × Toml) := []

/-! ## The nodes document -/

/-- The global settings as given. -/
structure GlobalDecl where
  predicatesModule : Option String := none
  defaultTaskQueue : Option String := none
  defaultDispatcherQueue : Option String := none
  trace : List String := []
  migrationDir : Option String := none
deriving DecidableEq

structure TaskDecl where
  name : String
  moduleName : String
  className : Option String := none
  storage : Option String := none
  storageReadonly : Bool := false
  storageTaskName : Option String := none
  maxRetry : UInt32 := 0
  retryCountdown : UInt32 := 0
  queue : Option String := none
  throttling : Option DurationSpec := none
  selectiveRunFunction : Option FunctionDecl := none
  outputSchema : Option String := none
deriving DecidableEq

structure StorageDecl where
  name : String
  moduleName : String
  className : Option String := none
  configuration : List (String × Toml) := []
  cache : Option CacheDecl := none

structure NodesDocument where
  flows : List String := []
  globals : GlobalDecl := {}
  tasks : List TaskDecl := []
  storages : List StorageDecl := []

/-! ## Flow documents -/

/-- A fan-out: the destinations start once for each item that the function yields. -/
structure ForeachDecl where
  function : String
  moduleName : String
  propagateResult : Bool := false
deriving DecidableEq

/-- A run of some tasks of the destination flow only. -/
structure SelectiveDecl where
  tasks : List String
  runSubsequent : Propagation := .off
  followSubflows : Bool := false
deriving DecidableEq

/-- An edge; sources left out are an error later on, an empty list makes a starting edge. -/
structure EdgeDecl where
  sources : Option (List String) := none
  targets : Option (List String) := none
  condition : Option Toml := none
  foreach : Option ForeachDecl := none
  selective : Option SelectiveDecl := none

inductive FallbackDecl where
  | flag (on : Bool)
  | nodes (names : List String)
deriving DecidableEq

structure FailureDecl where
  nodes : List String
  fallback : FallbackDecl
  propagateFailure : Bool := false
  condition : Option Toml := none

structure SamplingDecl where
  name : String
  moduleName : Option String := none
  args : List (String × Toml) := []

/-- What a flow hands on to its sub-flows. -/
structure PropagationFlags where
  nodeArgs : Propagation := .off
  parent : Propagation := .off
  parentFailures : Propagation := .off
  finished : Propagation := .off
  compoundFinished : Propagation := .off
  failures : Propagation := .off
  compoundFailures : Propagation := .off
deriving DecidableEq

/-- The flags by configuration key, in this order wherever they are listed. -/
def PropagationFlags.entries (p : PropagationFlags) : List (String × Propagation) := [
  ("propagate_node_args", p.nodeArgs),
  ("propagate_parent", p.parent),
  ("propagate_parent_failures", p.parentFailures),
  ("propagate_finished", p.finished),
  ("propagate_compound_finished", p.compoundFinished),
  ("propagate_failures", p.failures),
  ("propagate_compound_failures", p.compoundFailures)]

structure FlowDefinition where
  name : String
  edges : List EdgeDecl := []
  failures : List FailureDecl := []
  nowait : List String := []
  eagerFailures : List String := []
  cache : Option CacheDecl := none
  sampling : Option SamplingDecl := none
  throttling : Option DurationSpec := none
  propagation : PropagationFlags := {}
  nodeArgsFromFirst : Bool := false
  queue : Option String := none
  maxRetry : UInt32 := 0
  retryCountdown : UInt32 := 0

structure FlowDocument where
  definitions : List FlowDefinition := []

/-- The documents of one configuration as read. -/
structure Documents where
  nodes : NodesDocument := {}
  flows : List FlowDocument := []

end TaskFlow
