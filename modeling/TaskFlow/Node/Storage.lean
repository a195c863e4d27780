import TaskFlow.Cache.Spec

/-!
# Storages

- `Storage`: where results are kept, with an opaque configuration and a cache in front;
- `Storage.ofDecl`: the storage of a declaration.
-/

namespace TaskFlow

/-- A result storage. -/
structure Storage where
  name : String
  className : String
  moduleName : String
  /-- Handed on as it is. -/
  configuration : Json
  cache : Option CacheSpec

def Storage.ofDecl (decl : StorageDecl) : Except CacheError Storage := do
  let cache ← CacheSpec.ofOptional decl.cache
  return {
    name := decl.name
    className := decl.className.getD decl.name
    moduleName := decl.moduleName
    configuration := .obj (Toml.toJsonFields decl.configuration)
    cache := cache }

end TaskFlow
