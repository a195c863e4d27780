import TaskFlow.Condition.Check
import TaskFlow.Condition.Construct

/-!
# Failure rules

- `Fallback`: what happens once a rule applies;
- `FailureRule.ofDecl`: the rule of a declaration: distinct known nodes, a fallback, and a condition that inspects no
  results; `RuleError` says what is wrong first.
-/

namespace TaskFlow

/-- What happens once a failure rule applies: the failure counts as handled and the flow stops, or other nodes are
started. -/
inductive Fallback where
  | stopFlow
  | nodes (names : List String)
deriving DecidableEq

/-- The nodes that a fallback starts. -/
def Fallback.started : Fallback → List String
  | stopFlow => []
  | nodes names => names

/-- A fallback for the failure of all of its nodes. -/
structure FailureRule where
  nodes : List String
  fallback : Fallback
  propagateFailure : Bool
  condition : Condition

/-- Why a declaration gives no rule. -/
inductive RuleError where
  | noNodes
  | repeatedNode (node : String)
  | unknownNode (node : String)
  | fallbackOff (nodes : List String)
  | emptyFallback (nodes : List String)
  | unknownFallback (node : String)
  | stopAndPropagate (nodes : List String)
  | ownFallback (node : String)
  | condition (e : ConditionError)
deriving DecidableEq

def RuleError.message : RuleError → String
  | noNodes => "failure rule lists no nodes"
  | repeatedNode node => s!"node '{node}' is listed twice in one failure rule"
  | unknownNode node => s!"failure rule references unknown node '{node}'"
  | fallbackOff nodes => "fallback for " ++ Text.quoteList nodes ++ " must be `true` or a list of nodes"
  | emptyFallback nodes => "empty fallback list for " ++ Text.quoteList nodes
  | unknownFallback node => s!"unknown fallback node '{node}'"
  | stopAndPropagate nodes =>
    "failure rule for " ++ Text.quoteList nodes ++
      " cannot both stop the flow (fallback = true) and propagate the failure"
  | ownFallback node => s!"node '{node}' cannot be its own fallback"
  | condition e => e.message

namespace FailureRule

/-- Every node the first of its name and known. -/
def checkNodes (s : Scope) (seen : List String) : List String → Except RuleError Unit
  | [] => .ok ()
  | node :: nodes =>
    if seen.contains node then .error (.repeatedNode node)
    else if (s.kind? node).isNone then .error (.unknownNode node)
    else checkNodes s (node :: seen) nodes

/-- The fallback of a declaration, its nodes known. -/
def fallbackOf (s : Scope) (nodes : List String) : FallbackDecl → Except RuleError Fallback
  | .flag true => .ok .stopFlow
  | .flag false => .error (.fallbackOff nodes)
  | .nodes [] => .error (.emptyFallback nodes)
  | .nodes names =>
    match names.find? fun name => (s.kind? name).isNone with
    | some name => .error (.unknownFallback name)
    | none => .ok (.nodes names)

/-- A stopped flow propagates nothing, and no node replaces itself alone. -/
def checkFallback (nodes : List String) (fallback : Fallback) (propagateFailure : Bool) : Except RuleError Unit :=
  match fallback, nodes with
  | .stopFlow, _ => if propagateFailure then .error (.stopAndPropagate nodes) else .ok ()
  | .nodes [name], [node] => if name = node then .error (.ownFallback node) else .ok ()
  | _, _ => .ok ()

def ofDecl (s : Scope) (decl : FailureDecl) : Except RuleError FailureRule := do
  if decl.nodes.isEmpty then throw .noNodes
  checkNodes s [] decl.nodes
  let fallback ← fallbackOf s decl.nodes decl.fallback
  checkFallback decl.nodes fallback decl.propagateFailure
  let condition ← (Condition.ofDecl s decl.nodes decl.condition).mapError .condition
  (condition.check s decl.nodes false).mapError .condition
  return ⟨decl.nodes, fallback, decl.propagateFailure, condition⟩

end FailureRule

end TaskFlow
