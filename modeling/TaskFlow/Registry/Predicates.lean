import TaskFlow.Json.Query
import TaskFlow.Registry.Basic

/-!
# Built-in predicates

- the field predicates look at the stored result of a node, their `args` twins at the arguments of the flow, where
  absent and null arguments make every one of them false and `argsIsNone` true;
- a predicate takes its arguments in a fixed order, and the first one missing is the error;
- `builtinPredicates`: each with its name and parameters.
-/

namespace TaskFlow.Predicates

/-- The module of the built-in predicates. -/
def moduleName : String := "flowdag.predicates"

variable (call : PredicateCall)

def message : Except EvalError Json :=
  match call.message with
  | some m => .ok m
  | none => .error .noMessage

/-- The arguments of the flow, a null being none. -/
def nodeArgs? : Option Json := call.nodeArgs.filter fun a => !a.isNull

def arg (name : String) : Except EvalError Json :=
  match call.args.get? name with
  | some a => .ok a
  | none => .error (.missingArgument name)

def argOrNull (name : String) : Json := (call.args.get? name).getD .null

def key : Except EvalError Json := arg call "key"

/-! ## Predicates on a stored result -/

def fieldExist : Except EvalError Bool := do
  let source ← message call
  let path ← key call
  return (source.lookup? path).isSome

def fieldEqual : Except EvalError Bool := do
  let expected ← arg call "value"
  let source ← message call
  let path ← key call
  return (source.lookup? path).any fun field => field.equals expected

def fieldContain : Except EvalError Bool := do
  let source ← message call
  let path ← key call
  return (source.lookup? path).any fun field => field.contains (argOrNull call "value")

/-- The length at the path stands in the wanted order to the argument; what has no length does in none. -/
def compareLength (wanted : Ordering) : Except EvalError Bool := do
  let length ← arg call "length"
  match length.asNat? with
  | none => .error .lengthNotNatural
  | some n =>
    let source ← message call
    let path ← key call
    return ((source.lookup? path).bind Json.length?).any fun m => compare m n == wanted

/-- The value at the path stands in the wanted order to the argument. -/
def compareField (source : Json) (wanted : Ordering) : Except EvalError Bool := do
  let expected ← arg call "value"
  let path ← key call
  return (source.lookup? path).any fun field => field.compare? expected == some wanted

def fieldGreater : Except EvalError Bool := do
  let source ← message call
  compareField call source .gt

def fieldLess : Except EvalError Bool := do
  let source ← message call
  compareField call source .lt

/-! ## Predicates on the arguments of the flow -/

/-- Without a key nothing exists. -/
def argsFieldExist : Except EvalError Bool :=
  match nodeArgs? call, call.args.get? "key" with
  | some source, some path => .ok (source.lookup? path).isSome
  | _, _ => .ok false

def argsFieldEqual : Except EvalError Bool := do
  let expected ← arg call "value"
  let path ← key call
  return ((nodeArgs? call).bind (·.lookup? path)).any fun field => field.equals expected

def argsFieldContain : Except EvalError Bool := do
  let path ← key call
  return ((nodeArgs? call).bind (·.lookup? path)).any fun field => field.contains (argOrNull call "value")

def argsFieldCompare (wanted : Ordering) : Except EvalError Bool :=
  match nodeArgs? call with
  | some source => compareField call source wanted
  | none => .ok false

def argsIsNone : Except EvalError Bool := .ok (nodeArgs? call).isNone

end TaskFlow.Predicates

namespace TaskFlow

/-- The built-in predicates with their parameters. -/
def builtinPredicates : List (String × List String × (PredicateCall → Except EvalError Bool)) := [
  ("alwaysTrue", [], fun _ => .ok true),
  ("alwaysFalse", [], fun _ => .ok false),
  ("fieldExist", [messageParam, "key"], Predicates.fieldExist),
  ("fieldEqual", [messageParam, "key", "value"], Predicates.fieldEqual),
  ("fieldContain", [messageParam, "key", "value"], Predicates.fieldContain),
  ("fieldLenEqual", [messageParam, "key", "length"], fun call => Predicates.compareLength call .eq),
  ("fieldLenGreater", [messageParam, "key", "length"], fun call => Predicates.compareLength call .gt),
  ("fieldLenLess", [messageParam, "key", "length"], fun call => Predicates.compareLength call .lt),
  ("fieldGreater", [messageParam, "key", "value"], Predicates.fieldGreater),
  ("fieldLess", [messageParam, "key", "value"], Predicates.fieldLess),
  ("argsFieldExist", [nodeArgsParam, "key"], Predicates.argsFieldExist),
  ("argsFieldEqual", [nodeArgsParam, "key", "value"], Predicates.argsFieldEqual),
  ("argsFieldContain", [nodeArgsParam, "key", "value"], Predicates.argsFieldContain),
  ("argsFieldGreater", [nodeArgsParam, "key", "value"], fun call => Predicates.argsFieldCompare call .gt),
  ("argsFieldLess", [nodeArgsParam, "key", "value"], fun call => Predicates.argsFieldCompare call .lt),
  ("argsIsNone", [nodeArgsParam], Predicates.argsIsNone)]

end TaskFlow
