import TaskFlow.Document.Basic
import TaskFlow.Registry.Builtin

/-!
# Sampling of flows

- `Sampling`: the strategy that says when a flow is looked at again, with its arguments;
- `Sampling.ofDecl`: the strategy of a declaration, registered and given exactly its arguments; without one,
  `Sampling.standard`;
- `Sampling.next`: the seconds until the next look, or nothing to stop.
-/

namespace TaskFlow

/-- A registered strategy with its arguments. -/
structure Sampling where
  function : FunctionRef
  args : Dict Json
deriving DecidableEq

/-- Why a declaration gives no strategy. -/
inductive SamplingError where
  | unknownStrategy (function : FunctionRef)
  | argumentMismatch (function : FunctionRef) (mismatch : ArgumentMismatch)
deriving DecidableEq

def SamplingError.message : SamplingError → String
  | unknownStrategy f => s!"unknown sampling strategy '{f.text}'"
  | argumentMismatch f m => s!"sampling strategy '{f.text}' arguments do not match: {m.message}"

namespace Sampling

/-- Intervals doubled from two seconds up to two minutes. -/
def standard : Sampling where
  function := ⟨Strategies.moduleName, "biexponential_increase"⟩
  args := Dict.ofList [("start_retry", Json.ofNat 2), ("max_retry", Json.ofNat 120)]

def ofDecl (registry : Registry) : Option SamplingDecl → Except SamplingError Sampling
  | none => .ok standard
  | some decl =>
    let f : FunctionRef := ⟨decl.moduleName.getD Strategies.moduleName, decl.name⟩
    match registry.strategy? f with
    | none => .error (.unknownStrategy f)
    | some strategy => do
      (matchArguments strategy.params (decl.args.map (·.1))).mapError (.argumentMismatch f)
      return ⟨f, Dict.ofList (Toml.toJsonFields decl.args)⟩

/-- Seconds until the next sampling, nothing to stop. -/
def next (registry : Registry) (s : Sampling) (progress : Progress) : Except EvalError (Option Nat) :=
  match (registry.strategy? s.function).bind (·.eval) with
  | none => .error (.strategyUnimplemented s.function)
  | some eval => eval progress s.args

end Sampling

end TaskFlow
