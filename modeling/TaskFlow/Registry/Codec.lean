import TaskFlow.Json.Record
import TaskFlow.Registry.Basic

/-!
# Function references in JSON

- `FunctionRef.toJson` writes the module, then the name; `FunctionRef.ofDraft?` reads them back.
-/

namespace TaskFlow.FunctionRef

def toJson (f : FunctionRef) : Json := .obj [("module", .str f.moduleName), ("name", .str f.name)]

def ofDraft? (d : Json.Draft) : Option FunctionRef := do
  let fs ← Json.record? ["module", "name"] d
  return ⟨← Json.required? fs "module" Json.string?, ← Json.required? fs "name" Json.string?⟩

end TaskFlow.FunctionRef
