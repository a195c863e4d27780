import TaskFlow.Registry.Predicates
import TaskFlow.Registry.Strategies

/-!
# The registry of built-in functions

- `Registry.builtin`: the built-in predicates and strategies, and the trace sink `logging`.
-/

namespace TaskFlow.Registry

def builtin : Registry where
  predicates := builtinPredicates.map fun (name, params, eval) => (⟨Predicates.moduleName, name⟩, ⟨params, some eval⟩)
  strategies := builtinStrategies.map fun (name, params, eval) => (⟨Strategies.moduleName, name⟩, ⟨params, some eval⟩)
  traceSinks := ["logging"]

end TaskFlow.Registry
