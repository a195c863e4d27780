import TaskFlow.Proofs.Data.Entries
import TaskFlow.Registry.Builtin

/-!
# Built-in functions by name

- `Registry.predicate?_builtin`, `Registry.strategy?_builtin`: a built-in function is found under its name, since no
  name is given twice (`lookup_functions`).
-/

namespace TaskFlow

/-- Functions of one module under names that are not repeated. -/
theorem lookup_functions {α σ : Type} {items : List α} {name : α → String} (moduleName : String) (value : α → σ)
    (hnames : (items.map name).Nodup) {a : α} (ha : a ∈ items) :
    (items.map fun a => ((⟨moduleName, name a⟩ : FunctionRef), value a)).lookup ⟨moduleName, name a⟩ =
      some (value a) := by
  have hinjective : Function.Injective fun name => (⟨moduleName, name⟩ : FunctionRef) :=
    fun _ _ h => congrArg FunctionRef.name h
  have hnodup : ((items.map fun a => ((⟨moduleName, name a⟩ : FunctionRef), value a)).map Prod.fst).Nodup := by
    have hrefs := hnames.map hinjective
    rw [List.map_map] at hrefs ⊢
    exact hrefs
  exact (mem_iff_lookup hnodup).1 (List.mem_map.2 ⟨a, ha, rfl⟩)

namespace Registry

theorem predicate?_builtin {name : String} {params : List String} {eval : PredicateCall → Except EvalError Bool}
    (h : (name, params, eval) ∈ builtinPredicates) :
    builtin.predicate? ⟨Predicates.moduleName, name⟩ = some ⟨params, some eval⟩ := by
  have hnames : (builtinPredicates.map fun p => p.1).Nodup := by decide
  exact lookup_functions Predicates.moduleName (fun p => (⟨p.2.1, some p.2.2⟩ : PredicateSignature)) hnames h

theorem strategy?_builtin {name : String} {params : List String}
    {eval : Progress → Dict Json → Except EvalError (Option Nat)} (h : (name, params, eval) ∈ builtinStrategies) :
    builtin.strategy? ⟨Strategies.moduleName, name⟩ = some ⟨params, some eval⟩ := by
  have hnames : (builtinStrategies.map fun s => s.1).Nodup := by decide
  exact lookup_functions Strategies.moduleName (fun s => (⟨s.2.1, some s.2.2⟩ : StrategySignature)) hnames h

end Registry

end TaskFlow
