import TaskFlow.Data.Reach
import TaskFlow.System.Basic
import TaskFlow.System.Error

/-!
# Selective runs

- `System.runsTask`: whether a flow starts a task by its edges, or a flow nested in it does;
- `System.planSelective`: the edges to fire for some tasks of a flow, for every flow that takes part. Tasks that the
  flow lacks are planned in its sub-flows, and a sub-flow with a plan is to run in the flow itself;
- a flow is planned once, so nesting may be recursive.
-/

namespace TaskFlow

namespace System

variable (s : System)

/-! ## Where tasks run -/

/-- The flows that the edges of a flow start. -/
def startedFlows (name : String) : List String :=
  match s.flows.get? name with
  | none => []
  | some f => (s.subFlows f).names.filter f.graph.contains

/-- Whether the edges of a flow start a task, by the name of the flow. -/
def startsTask (task flow : String) : Bool :=
  match s.flows.get? flow with
  | none => false
  | some f => f.graph.contains task

/-- Whether a flow starts a task, or one nested in it does. -/
def runsTask (f : Flow) (task : String) (followSubflows : Bool) : Bool :=
  f.graph.contains task ||
    (followSubflows && (gather s.startedFlows s.flows.keys [f.name]).any (s.startsTask task))

/-! ## Planning -/

/-- What is planned so far: the flows looked at, and the edges of those that take part. -/
structure PlanState where
  visited : List String := []
  plan : Dict (List Nat) := .empty

/-- A function that plans one flow, and says whether it takes part. -/
abbrev PlanFlow := Flow → PlanState → Except ConfigError (Bool × PlanState)

/-- The sub-flows planned one after another; those that take part and are started by an edge of the flow. -/
def planSubFlows (planFlow : PlanFlow) (f : Flow) :
    List String → PlanState → Except ConfigError (List String × PlanState)
  | [], st => .ok ([], st)
  | name :: names, st =>
    match s.flows.get? name with
    | none => planSubFlows planFlow f names st
    | some sub => do
      let (planned, st) ← planFlow sub st
      let (targets, st) ← planSubFlows planFlow f names st
      return (if planned && f.graph.contains name then name :: targets else targets, st)

/-- A flow planned for some tasks, and the sub-flows for those it lacks. The depth bounds the nesting of flows that
are not yet visited. -/
def planFlow (runSubsequent : Propagation) (followSubflows : Bool) : Nat → List String → PlanFlow
  | 0, _, _, st => .ok (false, st)
  | depth + 1, tasks, f, st =>
    if st.visited.contains f.name then .ok (st.plan.contains f.name, st)
    else do
      let st := { st with visited := f.name :: st.visited }
      let found := tasks.filter f.graph.contains
      let missing := tasks.filter fun task => !f.graph.contains task
      let (subTargets, st) ←
        if followSubflows && !missing.isEmpty then
          planSubFlows s (planFlow runSubsequent true depth missing) f (s.subFlows f).names st
        else .ok ([], st)
      let targets := found ++ subTargets
      if targets.isEmpty then return (false, st)
      let edges ← (f.selectiveEdges targets (runSubsequent.appliesTo f.name)).mapError (.flow f.name)
      return (true, { st with plan := st.plan.insert f.name edges })

/-- The edges to fire, by flow, for some tasks of a flow. -/
def planSelective (target : String) (tasks : List String) (runSubsequent : Propagation) (followSubflows : Bool) :
    Except ConfigError (Dict (List Nat)) :=
  match s.flows.get? target with
  | none => .error (.selective (.unknownTarget target))
  | some f =>
    match tasks.find? fun task => !s.runsTask f task followSubflows with
    | some task => .error (.selective (.notRun target task))
    | none => do
      let (planned, st) ← s.planFlow runSubsequent followSubflows (s.flows.size + 1) tasks f {}
      if planned then .ok st.plan else .error (.selective (.noEdges target))

/-- The plan of a selective run, reported once it is found. -/
def selectivePlan (target : String) (tasks : List String) (runSubsequent : Propagation) (followSubflows : Bool) :
    Logged ConfigError (Dict (List Nat)) := do
  let plan ← Logged.ofExcept (s.planSelective target tasks runSubsequent followSubflows)
  Logged.report (.selectiveRunPlanned target plan.size)
  return plan

end System

end TaskFlow
