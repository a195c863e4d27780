import TaskFlow.System.Selective

/-!
# Consistency of flows

- `System.checkFlow`: the rules that a flow keeps besides those of its parts: it can start, everything it waits for is
  started, no edge stands twice, its lists and flags name the right nodes, and its selective runs find their tasks;
- `System.checkFlows`: every flow is checked and every failure reported; the first one is the error.
-/

namespace TaskFlow

namespace Flow

variable (f : Flow)

/-- A starting edge, and a single first node where the arguments come out of its result. -/
def checkStart : Except Inconsistency Unit :=
  let starts := f.startingEdges
  if starts.isEmpty then .error .noStart
  else if !f.nodeArgsFromFirst then .ok ()
  else if 1 < starts.length then .error (.severalStarts starts.length)
  else if (starts.flatMap (·.targets)).length ≠ 1 then .error .severalFirstNodes
  else .ok ()

/-- No two edges between equal sets of nodes; `seen` holds the ends of the edges in front. -/
def checkDuplicates (seen : List (NameSet × NameSet)) : List Edge → Except Inconsistency Unit
  | [] => .ok ()
  | e :: es =>
    let ends := (NameSet.ofList e.sources, NameSet.ofList e.targets)
    if seen.contains ends then .error (.duplicateEdge e.sources e.targets) else checkDuplicates (ends :: seen) es

/-- What the flow does not wait for is started, and nothing waits for it. -/
def checkNowait : Except Inconsistency Unit :=
  f.nowait.names.forM fun node =>
    if !f.destinationNodes.contains node then .error (.nowaitNeverStarted node)
    else if f.sourceNodes.contains node then .error (.nowaitSource node)
    else .ok ()

/-- Nodes whose failure stops the flow are used, waited for, and without a fallback. -/
def checkEagerFailures : Except Inconsistency Unit :=
  f.eagerFailures.names.forM fun node =>
    if !f.usedNodes.contains node then .error (.eagerUnused node)
    else if f.nowait.contains node then .error (.eagerNowait node)
    else if f.rules.any fun r => r.nodes.contains node then .error (.eagerFallback node)
    else .ok ()

/-- The nodes of a failure rule are started, and its fallback names no node twice. -/
def checkRule (r : FailureRule) : Except Inconsistency Unit := do
  match r.nodes.find? fun node => !(f.edgeTargets.contains node || f.fallbackNodes.contains node) with
  | some node => throw (.ruleNeverStarted node)
  | none =>
    match NameSet.repeated? [] r.fallback.started with
    | some node => throw (.repeatedFallback node)
    | none => return ()

/-- The flags that cannot hold together for one sub-flow. -/
def checkSubFlow (sub : String) : Except Inconsistency Unit :=
  let p := f.propagation
  if p.finished.appliesTo sub && p.compoundFinished.appliesTo sub then .error (.finishedTwice sub)
  else if p.failures.appliesTo sub && p.compoundFailures.appliesTo sub then .error (.failuresTwice sub)
  else .ok ()

end Flow

namespace System

variable (s : System)

/-- Every source is started; a sub-flow that is not only earns a warning. -/
def checkSource (f : Flow) (node : String) : Logged Inconsistency Unit :=
  if f.destinationNodes.contains node then return ()
  else if s.kind? node = some .flow then Logged.report (.unstartedSubFlow f.name node)
  else Logged.fail (.neverStarted node)

def checkSources (f : Flow) : Logged Inconsistency Unit := do
  let _ ← Logged.forAll (s.checkSource f) f.sourceNodes.names

/-- A flag names sub-flows only; without any, a flag that is set earns a warning. -/
def checkFlag (f : Flow) (flag : String × Propagation) : Logged Inconsistency Unit := do
  match flag.2.named.find? fun node => !(s.subFlows f).contains node with
  | some node => Logged.fail (.notSubFlow flag.1 node)
  | none => Logged.reportIf (flag.2.isSet && (s.subFlows f).isEmpty) (.idleFlag f.name flag.1)

def checkPropagation (f : Flow) : Logged Inconsistency Unit := do
  let _ ← Logged.forAll (s.checkFlag f) f.propagation.entries
  Logged.ofExcept ((s.subFlows f).names.forM f.checkSubFlow)

/-- A selective run asks for tasks that its flow runs, and names flows only. -/
def checkSelectiveRun (target : Flow) (sel : Selective) : Except Inconsistency Unit := do
  match sel.tasks.find? fun task => !s.runsTask target task sel.followSubflows with
  | some task => throw (.notRun target.name task sel.followSubflows)
  | none =>
    match sel.runSubsequent.named.find? fun name => s.kind? name != some .flow with
    | some name => throw (.subsequentNotFlow name)
    | none => return ()

def checkSelectiveEdge (e : Edge) : Except Inconsistency Unit :=
  match e.selective with
  | none => .ok ()
  | some sel =>
    match e.targets.head?.bind s.flows.get? with
    | none => .error .selectiveTarget
    | some target => s.checkSelectiveRun target sel

/-- The rules of a whole flow, in the order in which their failures are found. -/
def checkFlow (f : Flow) : Logged Inconsistency Unit := do
  Logged.ofExcept f.checkStart
  s.checkSources f
  Logged.ofExcept (Flow.checkDuplicates [] f.edges)
  Logged.ofExcept f.checkNowait
  Logged.ofExcept f.checkEagerFailures
  Logged.ofExcept (f.rules.forM f.checkRule)
  s.checkPropagation f
  Logged.ofExcept (f.edges.forM s.checkSelectiveEdge)

/-- The event for a flow that breaks a rule. -/
def failedValidation (f : Flow) (e : ConfigError) : Event := .failedValidation f.name (Error.config e).message

def checkFlows : Logged ConfigError Unit := do
  let _ ← Logged.attemptAll (fun f => (s.checkFlow f).mapError (.inconsistent f.name)) failedValidation s.flows.values

end System

end TaskFlow
