import TaskFlow.Condition.Evaluate
import TaskFlow.Dispatch.Table
import TaskFlow.Failure.Resolution

/-!
# Questions of a dispatcher

- `FlowTable.shouldFire`: whether the condition of an edge holds; whether its sources are done is the dispatcher's
  business;
- `FlowTable.resolveFailure`: the fallback for the nodes failed so far, whose condition sees no results;
- `FlowTable.nextSampling`: when to look at the flow again.
-/

namespace TaskFlow.FlowTable

variable (f : FlowTable)

/-- The numbers of the edges that pass a test, each with its edge. -/
def edgesWhere (p : EdgeEntry → Bool) : List (Nat × EdgeEntry) :=
  f.edges.zipIdx.filterMap fun (e, i) => if p e then some (i, e) else none

def startingEdges : List (Nat × EdgeEntry) := f.edgesWhere fun e => e.sources.isEmpty

/-- The edges that wait for a node. -/
def edgesFrom (node : String) : List (Nat × EdgeEntry) := f.edgesWhere fun e => e.sources.contains node

def shouldFire (index : Nat) (registry : Registry) (results : Results) (nodeArgs : Option Json) :
    Except EvalError Bool :=
  match f.edges[index]? with
  | none => .error (.noEdge index)
  | some e => e.condition.evaluate registry results nodeArgs

/-- The fallback for the failed nodes, its condition evaluated with given results. -/
def resolveFailureWith (results : Results) (failed : NameSet) (registry : Registry) (nodeArgs : Option Json) :
    Except EvalError (Option Resolution) :=
  f.failures.resolve failed fun entry => entry.condition.evaluate registry results nodeArgs

def resolveFailure (failed : NameSet) (registry : Registry) (nodeArgs : Option Json) :
    Except EvalError (Option Resolution) :=
  f.resolveFailureWith Results.none failed registry nodeArgs

def nextSampling (registry : Registry) (progress : Progress) : Except EvalError (Option Nat) :=
  f.sampling.next registry progress

end TaskFlow.FlowTable
