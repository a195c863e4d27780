import TaskFlow.Cache.Spec
import TaskFlow.Failure.Rule
import TaskFlow.Flow.Edge
import TaskFlow.Flow.Sampling

/-!
# Why a flow is refused

- `Inconsistency`: a rule of a whole flow that does not hold;
- `FlowError`: what is wrong with a definition or with the flow that it gives.
-/

namespace TaskFlow

/-- A rule of a whole flow that does not hold. -/
inductive Inconsistency where
  | noStart
  | severalStarts (count : Nat)
  | severalFirstNodes
  | neverStarted (task : String)
  | duplicateEdge (sources targets : List String)
  | nowaitNeverStarted (node : String)
  | nowaitSource (node : String)
  | eagerUnused (node : String)
  | eagerNowait (node : String)
  | eagerFallback (node : String)
  | ruleNeverStarted (node : String)
  | repeatedFallback (node : String)
  | notSubFlow (flag node : String)
  | finishedTwice (subFlow : String)
  | failuresTwice (subFlow : String)
  | selectiveTarget
  | notRun (target task : String) (followSubflows : Bool)
  | subsequentNotFlow (name : String)
deriving DecidableEq

/-- Where a selective run looks for its tasks. -/
def Inconsistency.scopeText (followSubflows : Bool) : String :=
  if followSubflows then "or any of its sub-flows" else "(follow_subflows is off)"

def Inconsistency.message : Inconsistency → String
  | noStart => "no starting edge (an edge with an empty 'from')"
  | severalStarts count => s!"node_args_from_first requires a single starting edge, found {count}"
  | severalFirstNodes => "node_args_from_first requires the starting edge to have exactly one destination"
  | neverStarted task => s!"task '{task}' is used as a source but is never started in the flow"
  | duplicateEdge sources targets =>
    "duplicate edge from " ++ Text.quoteList sources ++ " to " ++ Text.quoteList targets
  | nowaitNeverStarted node => s!"nowait node '{node}' is never started in the flow"
  | nowaitSource node =>
    s!"nowait node '{node}' cannot be a source of an edge or a failure rule, the flow does not wait for it"
  | eagerUnused node => s!"eager failure node '{node}' is not used in the flow"
  | eagerNowait node => s!"node '{node}' cannot be both nowait and an eager failure"
  | eagerFallback node => s!"eager failure node '{node}' also has a fallback rule"
  | ruleNeverStarted node => s!"failure rule for '{node}' which is never started in the flow"
  | repeatedFallback node => s!"fallback node '{node}' is listed twice in one rule"
  | notSubFlow flag node => s!"{flag} names '{node}' which is not a sub-flow of this flow"
  | finishedTwice sub => s!"propagate_finished and propagate_compound_finished both apply to '{sub}'"
  | failuresTwice sub => s!"propagate_failures and propagate_compound_failures both apply to '{sub}'"
  | selectiveTarget => "selective edge does not target a flow"
  | notRun target task follow =>
    s!"selective run of '{target}' requests '{task}' which is not run by that flow {scopeText follow}"
  | subsequentNotFlow name => s!"run_subsequent names '{name}' which is not a flow"

/-- Why a flow is refused. -/
inductive FlowError where
  | edge (e : EdgeError)
  | failureRule (e : RuleError)
  | cache (e : CacheError)
  | throttling (e : DurationError)
  | sampling (e : SamplingError)
  | inconsistent (e : Inconsistency)
  | notInFlow (task : String)

def FlowError.message : FlowError → String
  | edge e => e.message
  | failureRule e => e.message
  | cache e => e.message
  | throttling e => e.message
  | sampling e => e.message
  | inconsistent e => e.message
  | notInFlow task => s!"selective run requests '{task}' which is not part of the flow"

end TaskFlow
