import TaskFlow.Document.Basic
import TaskFlow.Text.Blank
import TaskFlow.Toml.Printer

/-!
# Cache declarations

- `CachePolicy.parse?`: the policy of a name in any letter case, blanks around it and the word `cache` behind it left
  out;
- `CacheSpec.ofDecl`: the policy and the size of a declaration; `CacheError` says what is wrong first.
-/

namespace TaskFlow

/-- Which entry a full cache gives up. -/
inductive CachePolicy where
  | fifo
  | lifo
  | lru
  | mru
  | rr
deriving DecidableEq

namespace CachePolicy

def text : CachePolicy → String
  | fifo => "FIFO"
  | lifo => "LIFO"
  | lru => "LRU"
  | mru => "MRU"
  | rr => "RR"

def all : List CachePolicy := [fifo, lifo, lru, mru, rr]

/-- The policy with a text. -/
def ofText? (s : String) : Option CachePolicy := all.find? fun p => p.text == s

/-- A reversed name without the words `CACHE` at its end. -/
def stripCache : List Char → List Char
  | 'E' :: 'H' :: 'C' :: 'A' :: 'C' :: rest => stripCache rest
  | cs => cs

def parse? (s : String) : Option CachePolicy :=
  let upper := (Text.trim s.toList).flatMap Text.upperASCII
  ofText? (String.ofList (stripCache upper.reverse).reverse)

end CachePolicy

/-- A policy and the number of entries. -/
structure CacheSpec where
  policy : CachePolicy
  maxSize : Nat
deriving DecidableEq

/-- Why a declaration gives no cache. -/
inductive CacheError where
  | unknownModule (name moduleName : String)
  | unknownPolicy (name : String)
  | unknownOption (name : String)
  | invalidSize (value : Toml)
  | missingSize (name : String)

def CacheError.message : CacheError → String
  | unknownModule name moduleName => s!"cache '{name}' imported from unknown module '{moduleName}'"
  | unknownPolicy name => s!"invalid cache policy: {name} (expected FIFO, LIFO, LRU, MRU or RR)"
  | unknownOption name => s!"unknown cache option '{name}'"
  | invalidSize value => "max_cache_size must be a non-negative integer, got " ++ value.write
  | missingSize name => s!"cache '{name}' requires option 'max_cache_size'"

namespace CacheSpec

/-- The module that every cache is taken out of. -/
def moduleName : String := "flowdag.cache"

def sizeOption : String := "max_cache_size"

/-- The size among the options, which has to be given. -/
def sizeAmong (name : String) (options : List (String × Toml)) : Except CacheError Nat :=
  match options.lookup sizeOption with
  | none => .error (.missingSize name)
  | some (.int i) => if 0 ≤ i then .ok i.toNat else .error (.invalidSize (.int i))
  | some other => .error (.invalidSize other)

def ofDecl (decl : CacheDecl) : Except CacheError CacheSpec := do
  if let some m := decl.moduleName then
    if m ≠ moduleName then throw (.unknownModule decl.name m)
  match CachePolicy.parse? decl.name with
  | none => throw (.unknownPolicy decl.name)
  | some policy =>
    if let some (name, _) := decl.options.find? fun o => o.1 != sizeOption then throw (.unknownOption name)
    let size ← sizeAmong decl.name decl.options
    return ⟨policy, size⟩

/-- The cache of a declaration that may be left out. -/
def ofOptional : Option CacheDecl → Except CacheError (Option CacheSpec)
  | none => .ok none
  | some decl => (ofDecl decl).map some

end CacheSpec

end TaskFlow
