import TaskFlow.Failure.Graph
import TaskFlow.Flow.Error
import TaskFlow.Flow.Graph
import TaskFlow.Node.Storage

/-!
# Flows

- `Flow`: edges and failure rules with the settings of their dispatcher; its dependency graph and its failure graph
  follow from them;
- `Flow.ofDefinition`: the flow of a definition, everything it names being known;
- `Flow.selectiveEdges`: the edges that fire in a run of some of its nodes.
-/

namespace TaskFlow

structure Flow where
  name : String
  edges : List Edge
  rules : List FailureRule
  nowait : NameSet
  eagerFailures : NameSet
  propagation : PropagationFlags
  nodeArgsFromFirst : Bool
  cache : Option CacheSpec
  sampling : Sampling
  /-- Seconds between two runs. -/
  throttling : Option UInt64
  maxRetry : UInt32
  retryCountdown : UInt32
  queue : Option String

namespace Flow

/-! ## From definitions -/

def ofDefinition (s : Scope) (d : FlowDefinition) : Logged FlowError Flow := do
  let edges ← Logged.readAll (Edge.ofDecl s) .edge d.edges
  let rules ← Logged.readAll (FailureRule.ofDecl s) .failureRule d.failures
  let cache ← Logged.ofExcept ((CacheSpec.ofOptional d.cache).mapError .cache)
  let throttling ← Logged.ofExcept ((DurationSpec.throttling d.throttling).mapError .throttling)
  Logged.reportIf (throttling == some 0) (.zeroFlowThrottling d.name)
  Logged.reportAll ((FailureRule.shadowed rules).map .shadowedRule)
  Logged.report (.failureGraphBuilt rules.length (FailureGraph.ofRules rules).size)
  let sampling ← Logged.ofExcept ((Sampling.ofDecl s.registry d.sampling).mapError .sampling)
  Logged.ofExcept ((edges.forM (Edge.check s d.propagation.nodeArgs)).mapError .edge)
  Logged.report (.flowBuilt d.name edges.length rules.length)
  return {
    name := d.name
    edges := edges
    rules := rules
    nowait := NameSet.ofList d.nowait
    eagerFailures := NameSet.ofList d.eagerFailures
    propagation := d.propagation
    nodeArgsFromFirst := d.nodeArgsFromFirst
    cache := cache
    sampling := sampling
    throttling := throttling
    maxRetry := d.maxRetry
    retryCountdown := d.retryCountdown
    queue := d.queue }

/-! ## Graphs and nodes -/

variable (f : Flow)

def graph : FlowGraph := FlowGraph.ofEdges f.edges

def failures : FailureGraph := FailureGraph.ofRules f.rules

def startingEdges : List Edge := f.edges.filter Edge.isStarting

/-- The nodes that some fallback starts. -/
def fallbackNodes : NameSet := NameSet.ofList (f.rules.flatMap fun r => r.fallback.started)

/-- The nodes that some edge starts. -/
def edgeTargets : NameSet := NameSet.ofList (f.edges.flatMap (·.targets))

/-- The nodes that the flow waits for: sources of edges and nodes of failure rules. -/
def sourceNodes : NameSet :=
  (NameSet.ofList (f.edges.flatMap (·.sources))).union (f.rules.flatMap (·.nodes))

/-- The nodes that the flow starts. -/
def destinationNodes : NameSet := f.edgeTargets.union f.fallbackNodes.names

def usedNodes : NameSet := f.sourceNodes.union f.destinationNodes.names

/-! ## Selective runs -/

/-- The tasks, each in the flow, with everything that depends on them if that is to run too. -/
def selectiveTargets (runSubsequent : Bool) : List String → Except FlowError (List String)
  | [] => .ok []
  | task :: tasks =>
    if !f.graph.contains task then .error (.notInFlow task)
    else do
      let targets ← selectiveTargets runSubsequent tasks
      return task :: (if runSubsequent then (f.graph.descendants task).names else []) ++ targets

/-- The numbers of the edges that fire so that the tasks run. -/
def selectiveEdges (tasks : List String) (runSubsequent : Bool) : Except FlowError (List Nat) := do
  let targets ← f.selectiveTargets runSubsequent tasks
  return f.graph.plan f.edges targets

end Flow

end TaskFlow
