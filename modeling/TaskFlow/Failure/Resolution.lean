import TaskFlow.Data.Reach
import TaskFlow.Failure.Graph

/-!
# Resolving failures

- `FailureGraph.covered`: the vertices inside a set of failed nodes, found along links for failed nodes;
- `FailureGraph.candidates`: their fallbacks, larger sets first, then by number, then in the order of the rules;
- `FailureGraph.resolve`: the first candidate that is accepted.
-/

namespace TaskFlow

/-- A fallback that applies, with the set of failed nodes that it covers. -/
structure Resolution where
  node : Nat
  traversed : NameSet
  entry : FallbackEntry

namespace FailureGraph

/-- The vertices one link for a failed node away. -/
def failedLinks (g : FailureGraph) (failed : NameSet) (id : Nat) : List Nat :=
  match g.node? id with
  | none => []
  | some node => node.next.entries.filterMap fun (name, target) => if failed.contains name then some target else none

/-- The vertices inside a set of failed nodes. -/
def covered (g : FailureGraph) (failed : NameSet) : List Nat :=
  gather (g.failedLinks failed) (List.range g.size) (failed.names.filterMap g.entry?)

/-- The number of failed nodes of a vertex. -/
def weight (g : FailureGraph) (id : Nat) : Nat := ((g.node? id).map fun n => n.traversed.size).getD 0

/-- Larger sets come first, of equal ones the vertex with the smaller number. -/
def precedes (g : FailureGraph) (i j : Nat) : Bool :=
  g.weight j < g.weight i || (g.weight i == g.weight j && i ≤ j)

/-- The fallbacks of a vertex, as resolutions. -/
def resolutionsAt (g : FailureGraph) (id : Nat) : List Resolution :=
  match g.node? id with
  | none => []
  | some node => node.fallbacks.map fun entry => ⟨id, node.traversed, entry⟩

/-- The fallbacks for a set of failed nodes, in the order in which they are offered. -/
def candidates (g : FailureGraph) (failed : NameSet) : List Resolution :=
  ((g.covered failed).mergeSort g.precedes).flatMap g.resolutionsAt

end FailureGraph

/-- The first resolution whose entry is accepted. -/
def Resolution.first {m : Type → Type} [Monad m] (accepts : FallbackEntry → m Bool) :
    List Resolution → m (Option Resolution)
  | [] => pure none
  | r :: rs => do if ← accepts r.entry then pure (some r) else first accepts rs

/-- The fallback for a set of failed nodes. -/
def FailureGraph.resolve {m : Type → Type} [Monad m] (g : FailureGraph) (failed : NameSet)
    (accepts : FallbackEntry → m Bool) : m (Option Resolution) :=
  Resolution.first accepts (g.candidates failed)

end TaskFlow
