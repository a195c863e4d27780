import TaskFlow.Condition.Basic
import TaskFlow.Condition.Error

/-!
# Conditions in their place

- `Condition.check`: every call that takes a message is bound to a task among the sources whose results can be read
  back, and there are results to inspect at all.
-/

namespace TaskFlow

/-- A task whose results can be read back. -/
def Task.checkResults (f : FunctionRef) (t : Task) (node : String) : Except ConditionError Unit :=
  if t.storage.isNone then .error (.noStorage f node)
  else if t.storageReadonly then .error (.readonlyStorage f node)
  else .ok ()

/-- A node whose results can be read back. -/
def Scope.checkResults (s : Scope) (f : FunctionRef) (node : String) : Except ConditionError Unit :=
  match s.tasks.get? node with
  | some t => t.checkResults f node
  | none => .error (if s.flowNames.contains node then .subFlowResult f node else .unknownNode f node)

def Call.check (s : Scope) (sources : List String) (canInspect : Bool) (c : Call) : Except ConditionError Unit :=
  if !c.requiresMessage then .ok ()
  else match c.node with
    | none => .error (.unbound c.function)
    | some node =>
      if !canInspect then .error (.nothingToInspect c.function node)
      else if !sources.contains node then .error (.notSource c.function node)
      else s.checkResults c.function node

/-- The calls of a condition, in order. -/
def Condition.check (s : Scope) (sources : List String) (canInspect : Bool) (c : Condition) :
    Except ConditionError Unit :=
  c.calls.forM (Call.check s sources canInspect)

end TaskFlow
