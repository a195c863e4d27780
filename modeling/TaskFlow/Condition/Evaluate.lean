import TaskFlow.Condition.Basic

/-!
# Evaluating guards

- `Results`: the stored results by node;
- `Guard.evaluate`: the value of a guard. Groups stop at the first member that decides them, so what stands behind
  it is never looked up, and an error stops everything.
-/

namespace TaskFlow

/-- The stored results by node. -/
abbrev Results := String → Option Json

def Results.none : Results := fun _ => Option.none

def Results.ofDict (d : Dict Json) : Results := d.get?

/-- The message of a call: the stored result of its node, where it takes one. -/
def Call.messageFrom (results : Results) (c : Call) : Except EvalError (Option Json) :=
  match c.requiresMessage, c.node with
  | true, some node =>
    match results node with
    | some m => .ok (some m)
    | none => .error (.noResult c.function node)
  | _, _ => .ok none

def Call.evaluate (registry : Registry) (results : Results) (nodeArgs : Option Json) (c : Call) :
    Except EvalError Bool :=
  match registry.predicate? c.function with
  | none => .error (.unregistered c.function)
  | some p =>
    match p.eval with
    | none => .error (.unimplemented c.function)
    | some eval => do
      let message ← c.messageFrom results
      eval ⟨message, nodeArgs, c.args⟩

namespace Guard

variable (registry : Registry) (results : Results) (nodeArgs : Option Json)

mutual

def evaluate : Guard → Except EvalError Bool
  | always => .ok true
  | call c => c.evaluate registry results nodeArgs
  | all gs => evaluateAll gs
  | any gs => evaluateAny gs
  | negate g => (evaluate g).map (!·)

/-- Whether every guard holds, up to the first that does not. -/
def evaluateAll : List Guard → Except EvalError Bool
  | [] => .ok true
  | g :: gs => do if ← evaluate g then evaluateAll gs else .ok false

/-- Whether some guard holds, up to the first that does. -/
def evaluateAny : List Guard → Except EvalError Bool
  | [] => .ok false
  | g :: gs => do if ← evaluate g then .ok true else evaluateAny gs

end

end Guard

end TaskFlow
