import TaskFlow.Document.Basic
import TaskFlow.Json.Record

/-!
# Values of declarations in JSON

- `Propagation.toJson` writes a flag or the sorted list of nodes, `Propagation.ofDraft?` reads them back;
- `Json.word32?` and `Json.word64?` read numbers within their words.
-/

namespace TaskFlow

namespace Json

/-- A number from zero up to a bound. -/
def natBelow? (bound : Nat) (d : Draft) : Option Nat :=
  match nat? d with
  | some n => if n < bound then some n else none
  | none => none

def word32? (d : Draft) : Option UInt32 := (natBelow? UInt32.size d).map UInt32.ofNat

def word64? (d : Draft) : Option UInt64 := (natBelow? UInt64.size d).map UInt64.ofNat

def ofWord32 (w : UInt32) : Json := ofNat w.toNat

def ofWord64 (w : UInt64) : Json := ofNat w.toNat

end Json

namespace Propagation

def toJson : Propagation → Json
  | flag on => on
  | nodes names => Json.ofNameSet names

def ofDraft? : Json.Draft → Option Propagation
  | .bool on => some (.flag on)
  | d => (Json.nameSet? d).map .nodes

end Propagation

end TaskFlow
