import TaskFlow.Data.NameSet
import TaskFlow.Data.Reach
import TaskFlow.Flow.Edge

/-!
# Dependencies between the nodes of a flow

- `FlowGraph.ofEdges`: an arc for each source and destination of an edge. The destination of a starting edge has no
  arc into it;
- `ancestors`, `descendants`: what a node depends on and what depends on it, itself left out;
- `FlowGraph.plan`: the numbers of the edges that lead to given nodes from the starting edges on.
-/

namespace TaskFlow

/-- Nodes in order of first appearance, and the arcs between them. -/
structure FlowGraph where
  names : List String
  arcs : List (String × String)

namespace FlowGraph

/-- The nodes of an edge: each destination, with the sources behind it. -/
def edgeNames (e : Edge) : List String := e.targets.flatMap fun target => target :: e.sources

def edgeArcs (e : Edge) : List (String × String) :=
  e.targets.flatMap fun target => e.sources.map fun source => (source, target)

def ofEdges (edges : List Edge) : FlowGraph where
  names := (edges.flatMap edgeNames).eraseDups
  arcs := edges.flatMap edgeArcs

variable (g : FlowGraph)

def contains (name : String) : Bool := g.names.contains name

/-- The nodes one arc away. -/
def successors (name : String) : List String :=
  g.arcs.filterMap fun (source, target) => if source = name then some target else none

/-- The nodes one arc back. -/
def predecessors (name : String) : List String :=
  g.arcs.filterMap fun (source, target) => if target = name then some source else none

def dependenciesOf (name : String) : NameSet := NameSet.ofList (g.predecessors name)

def dependentsOf (name : String) : NameSet := NameSet.ofList (g.successors name)

/-- Every other node that the node depends on. -/
def ancestors (name : String) : NameSet :=
  (NameSet.ofList (gather g.predecessors g.names [name])).filter fun n => n != name

/-- Every other node that depends on the node. -/
def descendants (name : String) : NameSet :=
  (NameSet.ofList (gather g.successors g.names [name])).filter fun n => n != name

/-- The targets with everything that they depend on. -/
def needed (targets : List String) : NameSet :=
  targets.foldl (fun set target => (set.insert target).union (g.ancestors target).names) .empty

/-- Whether an edge leads to a needed node out of needed nodes only. -/
def leadsTo (needed : NameSet) (e : Edge) : Bool :=
  e.targets.any needed.contains && e.sources.all needed.contains

/-- The numbers of the edges that pass a test. -/
def edgeIndices (p : Edge → Bool) (edges : List Edge) : List Nat :=
  edges.zipIdx.filterMap fun (e, i) => if p e then some i else none

/-- The numbers of the edges that have to fire for all targets to run. -/
def plan (edges : List Edge) (targets : List String) : List Nat :=
  edgeIndices (leadsTo (g.needed targets)) edges

end FlowGraph

end TaskFlow
