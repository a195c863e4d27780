import TaskFlow.Data.Dict
import TaskFlow.Data.NameSet
import TaskFlow.Json.Basic

/-!
# Registered functions

- `FunctionRef`: a function by the module it is registered under and its name;
- `EvalError`: why a predicate or a strategy has no answer, with its wording in `EvalError.message`;
- `Registry`: the functions that configurations may name. A later registration of a reference replaces an earlier
  one (`predicate?_registerPredicate`);
- `matchArguments`: the supplied argument names are exactly the expected ones.
-/

namespace TaskFlow

/-- A function by the module it is registered under and its name. -/
structure FunctionRef where
  moduleName : String
  name : String
deriving DecidableEq

/-- The reference as messages show it. -/
def FunctionRef.text (f : FunctionRef) : String := f.moduleName ++ "." ++ f.name

/-! ## Errors of evaluation -/

/-- Why a predicate or a strategy has no answer. -/
inductive EvalError where
  | noMessage
  | missingArgument (name : String)
  | lengthNotNatural
  | strategyArgument (name : String)
  | crossedBounds (start max : Nat)
  | unregistered (function : FunctionRef)
  | unimplemented (function : FunctionRef)
  | noResult (function : FunctionRef) (node : String)
  | strategyUnimplemented (function : FunctionRef)
  | noEdge (index : Nat)
deriving DecidableEq

def EvalError.message : EvalError → String
  | .noMessage => "predicate requires a message but none was given"
  | .missingArgument name => s!"missing predicate argument '{name}'"
  | .lengthNotNatural => "argument 'length' must be a non-negative integer"
  | .strategyArgument name => s!"strategy argument '{name}' must be a non-negative integer"
  | .crossedBounds start max => s!"random strategy: start_retry ({start}) exceeds max_retry ({max})"
  | .unregistered f => s!"predicate '{f.text}' is not registered"
  | .unimplemented f => s!"predicate '{f.text}' has no implementation in this registry"
  | .noResult f node => s!"predicate '{f.text}': no stored result for node '{node}'"
  | .strategyUnimplemented f => s!"sampling strategy '{f.text}' has no implementation in this registry"
  | .noEdge index => s!"no edge with index {index}"

/-! ## Signatures -/

/-- The parameter that receives the stored result of a node. -/
def messageParam : String := "message"

/-- The parameter that receives the arguments of the flow. -/
def nodeArgsParam : String := "node_args"

/-- What a predicate is called with. -/
structure PredicateCall where
  /-- The stored result of the node that the predicate is bound to. -/
  message : Option Json
  nodeArgs : Option Json
  args : Dict Json

/-- A predicate: its parameters, and its implementation where this program has one. -/
structure PredicateSignature where
  params : List String
  eval : Option (PredicateCall → Except EvalError Bool)

namespace PredicateSignature

def requiresMessage (p : PredicateSignature) : Bool := p.params.contains messageParam

def requiresNodeArgs (p : PredicateSignature) : Bool := p.params.contains nodeArgsParam

/-- The parameters that a configuration has to supply. -/
def explicitParams (p : PredicateSignature) : List String :=
  p.params.filter fun x => x != messageParam && x != nodeArgsParam

end PredicateSignature

/-- How far a flow has come when its strategy is asked for the next sampling. -/
structure Progress where
  /-- Seconds of the previous sampling, absent on the first call. -/
  previousRetry : Option Nat := none
  activeNodes : Nat := 0
  failedNodes : Nat := 0
  newStartedNodes : Nat := 0
  newFallbackNodes : Nat := 0
  finishedNodes : Nat := 0
  /-- A random number for the strategies that want one. -/
  draw : Nat := 0

/-- A strategy: its parameters, and its implementation where this program has one. An implementation answers the
seconds until the next sampling, or nothing to stop. -/
structure StrategySignature where
  params : List String
  eval : Option (Progress → Dict Json → Except EvalError (Option Nat))

/-! ## The registry -/

/-- The functions that configurations may name, the latest registration first. -/
structure Registry where
  predicates : List (FunctionRef × PredicateSignature) := []
  strategies : List (FunctionRef × StrategySignature) := []
  foreachFunctions : List FunctionRef := []
  selectiveRunFunctions : List FunctionRef := []
  traceSinks : List String := []

namespace Registry

def empty : Registry := {}

def predicate? (r : Registry) (f : FunctionRef) : Option PredicateSignature := r.predicates.lookup f

def strategy? (r : Registry) (f : FunctionRef) : Option StrategySignature := r.strategies.lookup f

def hasForeach (r : Registry) (f : FunctionRef) : Bool := r.foreachFunctions.contains f

def hasSelectiveRun (r : Registry) (f : FunctionRef) : Bool := r.selectiveRunFunctions.contains f

def hasTraceSink (r : Registry) (name : String) : Bool := r.traceSinks.contains name

def registerPredicate (r : Registry) (f : FunctionRef) (p : PredicateSignature) : Registry :=
  { r with predicates := (f, p) :: r.predicates }

def registerStrategy (r : Registry) (f : FunctionRef) (s : StrategySignature) : Registry :=
  { r with strategies := (f, s) :: r.strategies }

def registerForeach (r : Registry) (f : FunctionRef) : Registry :=
  { r with foreachFunctions := f :: r.foreachFunctions }

def registerSelectiveRun (r : Registry) (f : FunctionRef) : Registry :=
  { r with selectiveRunFunctions := f :: r.selectiveRunFunctions }

def registerTraceSink (r : Registry) (name : String) : Registry :=
  { r with traceSinks := name :: r.traceSinks }

theorem predicate?_registerPredicate (r : Registry) (f : FunctionRef) (p : PredicateSignature) (g : FunctionRef) :
    (r.registerPredicate f p).predicate? g = if g = f then some p else r.predicate? g := by
  by_cases h : g = f
  · simp [registerPredicate, predicate?, h]
  · have hb : (g == f) = false := by simp [h]
    simp [registerPredicate, predicate?, List.lookup_cons, hb, h]

end Registry

/-! ## Argument names -/

/-- How supplied argument names differ from the expected ones. -/
structure ArgumentMismatch where
  missing : List String
  unexpected : List String
deriving DecidableEq

/-- Both kinds of difference, each where there is one. -/
def ArgumentMismatch.message (m : ArgumentMismatch) : String :=
  let missing := if m.missing.isEmpty then [] else ["missing arguments: " ++ ", ".intercalate m.missing]
  let unexpected :=
    if m.unexpected.isEmpty then [] else ["unexpected arguments: " ++ ", ".intercalate m.unexpected]
  "; ".intercalate (missing ++ unexpected)

/-- Every expected name supplied and every supplied name expected, how often does not matter. -/
def matchArguments (expected supplied : List String) : Except ArgumentMismatch Unit :=
  let expected := NameSet.ofList expected
  let supplied := NameSet.ofList supplied
  let missing := expected.names.filter fun x => !supplied.contains x
  let unexpected := supplied.names.filter fun x => !expected.contains x
  if missing.isEmpty && unexpected.isEmpty then .ok () else .error ⟨missing, unexpected⟩

end TaskFlow
