import TaskFlow.Registry.Basic

/-!
# Built-in sampling strategies

- every strategy stops once no node is active, before it looks at its arguments;
- `increase` clamps to the upper bound from the second answer on, `decrease` to the lower one; a flow that has just
  started nodes is sampled after the start interval again by the two exponential ones;
- sums and products stay within 64 bits.
-/

namespace TaskFlow.Strategies

/-- The module of the built-in strategies. -/
def moduleName : String := "flowdag.strategies"

/-- A count cut off at the largest 64-bit word. -/
def saturate (n : Nat) : Nat := min n (UInt64.size - 1)

def natArg (args : Dict Json) (name : String) : Except EvalError Nat :=
  match (args.get? name).bind Json.asNat? with
  | some n => .ok n
  | none => .error (.strategyArgument name)

variable (p : Progress) (args : Dict Json)

/-- Whether nodes or fallbacks were started since the last sampling. -/
def hasNews : Bool := 0 < p.newStartedNodes || 0 < p.newFallbackNodes

/-- The answer of an active flow; an idle one is not sampled again. -/
def whileActive (answer : Except EvalError Nat) : Except EvalError (Option Nat) :=
  if p.activeNodes = 0 then .ok none else answer.map some

def constant : Except EvalError (Option Nat) :=
  whileActive p (natArg args "retry")

def linearIncrease : Except EvalError (Option Nat) := whileActive p do
  let start ← natArg args "start_retry"
  let max ← natArg args "max_retry"
  let step ← natArg args "step"
  return match p.previousRetry with
    | none => start
    | some previous => min (saturate (previous + step)) max

def biexponentialIncrease : Except EvalError (Option Nat) := whileActive p do
  let start ← natArg args "start_retry"
  let max ← natArg args "max_retry"
  if hasNews p then return start
  return match p.previousRetry with
    | none => start
    | some previous => min (saturate (previous * 2)) max

def biexponentialDecrease : Except EvalError (Option Nat) := whileActive p do
  let start ← natArg args "start_retry"
  let stop ← natArg args "stop_retry"
  if hasNews p then return start
  return match p.previousRetry with
    | none => start
    | some previous => max (previous / 2) stop

/-- Any number between the two bounds, as the draw has it. -/
def random : Except EvalError (Option Nat) := whileActive p do
  let start ← natArg args "start_retry"
  let max ← natArg args "max_retry"
  if max < start then .error (.crossedBounds start max)
  else return start + p.draw % (max - start + 1)

end TaskFlow.Strategies

namespace TaskFlow

/-- The built-in strategies with their parameters. -/
def builtinStrategies : List (String × List String × (Progress → Dict Json → Except EvalError (Option Nat))) := [
  ("constant", ["retry"], Strategies.constant),
  ("linear_increase", ["start_retry", "max_retry", "step"], Strategies.linearIncrease),
  ("biexponential_increase", ["start_retry", "max_retry"], Strategies.biexponentialIncrease),
  ("biexponential_decrease", ["start_retry", "stop_retry"], Strategies.biexponentialDecrease),
  ("random", ["start_retry", "max_retry"], Strategies.random)]

end TaskFlow
