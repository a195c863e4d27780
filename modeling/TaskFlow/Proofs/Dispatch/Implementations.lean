import TaskFlow.Proofs.Data.Entries
import TaskFlow.Proofs.Dispatch.Fallible

/-!
# Compilation calls no implementation

- `Registry.interface`: the registered functions with their parameters, without implementations;
- `Fallible.call_interface`, `Fallible.flow_interface` and the like: no step sees more of the registry than that;
- `Fallible.compile_interface`: neither does the compilation, whatever the conversion of scalars.
-/

namespace TaskFlow

/-! ## Registries without implementations -/

/-- The predicate without its implementation. -/
def PredicateSignature.interface (p : PredicateSignature) : PredicateSignature := { p with eval := none }

/-- The strategy without its implementation. -/
def StrategySignature.interface (s : StrategySignature) : StrategySignature := { s with eval := none }

namespace Registry

/-- The registered functions without implementations. -/
def interface (r : Registry) : Registry :=
  { r with
    predicates := r.predicates.map fun e => (e.1, e.2.interface)
    strategies := r.strategies.map fun e => (e.1, e.2.interface) }

theorem predicate?_interface (r : Registry) (f : FunctionRef) :
    r.interface.predicate? f = (r.predicate? f).map PredicateSignature.interface :=
  lookup_map_values PredicateSignature.interface r.predicates f

theorem strategy?_interface (r : Registry) (f : FunctionRef) :
    r.interface.strategy? f = (r.strategy? f).map StrategySignature.interface :=
  lookup_map_values StrategySignature.interface r.strategies f

end Registry

/-- The scope whose functions have no implementations. -/
def Scope.interface (s : Scope) : Scope := { s with registry := s.registry.interface }

/-! ## Steps -/

namespace Fallible

variable (scalar : Toml → Option Json)

theorem call_interface (s : Scope) (sources : List String) (fields : List (String × Toml)) :
    call scalar s.interface sources fields = call scalar s sources fields := by
  unfold call
  cases fields.find? fun e => !Call.keys.contains e.1 with
  | some e => rfl
  | none =>
    show ((Call.functionOf s fields).mapError _ >>= _) = ((Call.functionOf s fields).mapError _ >>= _)
    congr 1
    funext f
    have hfound : s.interface.registry.predicate? f = (s.registry.predicate? f).map PredicateSignature.interface :=
      s.registry.predicate?_interface f
    rw [hfound]
    -- a found predicate is asked for its parameters only
    cases s.registry.predicate? f <;> rfl

theorem conditionOf_interface (s : Scope) (sources : List String) (t : Option Toml) :
    conditionOf scalar s.interface sources t = conditionOf scalar s sources t := by
  cases t with
  | none => rfl
  | some t => rw [conditionOf, conditionOf, funext (call_interface scalar s sources)]

theorem edge_interface (s : Scope) (decl : EdgeDecl) : edge scalar s.interface decl = edge scalar s decl := by
  unfold edge
  simp only [conditionOf_interface]
  rfl

theorem checkNodes_interface (s : Scope) (seen nodes : List String) :
    FailureRule.checkNodes s.interface seen nodes = FailureRule.checkNodes s seen nodes := by
  induction nodes generalizing seen with
  | nil => rfl
  | cons node nodes ih =>
    rw [FailureRule.checkNodes, FailureRule.checkNodes, ih]
    rfl

theorem rule_interface (s : Scope) (decl : FailureDecl) : rule scalar s.interface decl = rule scalar s decl := by
  unfold rule
  simp only [conditionOf_interface, checkNodes_interface]
  rfl

theorem sampling_interface (registry : Registry) (decl : Option SamplingDecl) :
    sampling scalar registry.interface decl = sampling scalar registry decl := by
  unfold sampling
  cases decl with
  | none => rfl
  | some decl =>
    simp only [Registry.strategy?_interface]
    cases registry.strategy? ⟨decl.moduleName.getD Strategies.moduleName, decl.name⟩ <;> rfl

theorem flow_interface (s : Scope) (d : FlowDefinition) : flow scalar s.interface d = flow scalar s d := by
  have hedge : edge scalar s.interface = edge scalar s := funext (edge_interface scalar s)
  have hrule : rule scalar s.interface = rule scalar s := funext (rule_interface scalar s)
  have hsampling : sampling scalar s.interface.registry d.sampling = sampling scalar s.registry d.sampling :=
    sampling_interface scalar s.registry d.sampling
  unfold flow
  rw [hedge, hrule, hsampling]
  rfl

theorem system_interface (config : Configuration) (registry : Registry) :
    system scalar config registry.interface = system scalar config registry := by
  have hflow : ∀ settings tasks names, namedFlow scalar ⟨settings, registry.interface, tasks, names⟩ =
      namedFlow scalar ⟨settings, registry, tasks, names⟩ := by
    intro settings tasks names
    funext d
    have hflow := flow_interface scalar ⟨settings, registry, tasks, names⟩ d
    rw [namedFlow, namedFlow, ← hflow]
    rfl
  unfold system
  simp only [hflow]
  rfl

/-- **Implementations are not called**: a registry without any compiles to the same, and with the same events. -/
theorem compile_interface (digest : String → String) (config : Configuration) (registry : Registry) :
    compile scalar digest config registry.interface = compile scalar digest config registry := by
  rw [compile, compile, system_interface]

/-- Two registries that differ in their implementations only compile to the same. -/
theorem compile_congr {registry registry' : Registry} (h : registry'.interface = registry.interface)
    (digest : String → String) (config : Configuration) :
    compile scalar digest config registry' = compile scalar digest config registry := by
  rw [← compile_interface, h, compile_interface]

end Fallible

end TaskFlow
