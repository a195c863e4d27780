import TaskFlow.Data.Trie
import TaskFlow.Failure.Rule

/-!
# Failure graphs

- `FailureGraph`: one vertex for each set of failed nodes that some rule can meet, linked by the name of the node
  whose failure is added;
- `entry?`, `next?`, `walk?`: from one failed node to a set of them, one link for each further failure;
- `FailureBuilder.addRule`: the vertices of a rule are the non-empty subsets of its nodes, shared between rules, in the
  order in which the rules meet them; `FailureGraph.ofRules` adds every rule.
-/

namespace TaskFlow

/-- A fallback as kept at a vertex. -/
structure FallbackEntry where
  fallback : Fallback
  condition : Guard
  /-- The text of the condition. -/
  conditionText : String
  propagateFailure : Bool

/-- The entry of a rule. -/
def FallbackEntry.ofRule (r : FailureRule) : FallbackEntry where
  fallback := r.fallback
  condition := r.condition.guard
  conditionText := r.condition.render
  propagateFailure := r.propagateFailure

/-- A set of failed nodes. -/
structure FailureNode where
  traversed : NameSet
  /-- The vertex with one more failed node, by its name. -/
  next : Dict Nat := .empty
  /-- In the order of the rules. -/
  fallbacks : List FallbackEntry := []

/-- Vertices by number, and the vertex of each single failed node. -/
structure FailureGraph where
  nodes : List FailureNode := []
  starting : Dict Nat := .empty

namespace FailureGraph

def size (g : FailureGraph) : Nat := g.nodes.length

def node? (g : FailureGraph) (id : Nat) : Option FailureNode := g.nodes[id]?

/-- The vertex of a single failed node. -/
def entry? (g : FailureGraph) (name : String) : Option Nat := g.starting.get? name

/-- The vertex with one more failed node. -/
def next? (g : FailureGraph) (id : Nat) (name : String) : Option Nat := do
  let node ← g.node? id
  node.next.get? name

/-- The vertex of failures in the given order. -/
def walk? (g : FailureGraph) : List String → Option Nat
  | [] => none
  | first :: rest => do
    let id ← g.entry? first
    rest.foldlM g.next? id

/-- The vertex of a set of failed nodes. -/
def lookup? (g : FailureGraph) (failed : NameSet) : Option Nat := g.walk? failed.names

end FailureGraph

/-! ## Building -/

/-- A graph under construction, with the number of the vertex of each set by the names of the set. -/
structure FailureBuilder where
  nodes : Array FailureNode := #[]
  starting : Dict Nat := .empty
  index : Trie Nat := .empty

namespace FailureBuilder

def graph (b : FailureBuilder) : FailureGraph := ⟨b.nodes.toList, b.starting⟩

/-- The vertex of a set, added where there is none. -/
def vertexFor (b : FailureBuilder) (set : NameSet) : Nat × FailureBuilder :=
  match b.index.find? set.names with
  | some id => (id, b)
  | none =>
    let id := b.nodes.size
    (id, { b with nodes := b.nodes.push { traversed := set }, index := b.index.insert set.names id })

/-- The vertex of a single node, made an entry. -/
def singleton (b : FailureBuilder) (name : String) : Nat × FailureBuilder :=
  match b.starting.get? name with
  | some id => (id, b)
  | none =>
    let (id, b) := b.vertexFor (NameSet.ofList [name])
    (id, { b with starting := b.starting.insert name id })

/-- The entries of all nodes of a rule. -/
def singletons (b : FailureBuilder) : List String → List Nat × FailureBuilder
  | [] => ([], b)
  | name :: names =>
    let (id, b) := b.singleton name
    let (ids, b) := singletons b names
    (id :: ids, b)

def modifyNode (b : FailureBuilder) (id : Nat) (f : FailureNode → FailureNode) : FailureBuilder :=
  { b with nodes := b.nodes.modify id f }

/-- The link of a vertex for one more node, unless the vertex covers it; the vertex behind it joins the next level. -/
def link (id : Nat) (state : List Nat × FailureBuilder) (name : String) : List Nat × FailureBuilder :=
  let (level, b) := state
  match b.nodes[id]? with
  | none => (level, b)
  | some node =>
    if node.traversed.contains name then (level, b)
    else
      let (target, b) := b.vertexFor (node.traversed.insert name)
      let b := b.modifyNode id fun n => { n with next := n.next.insert name target }
      (if level.contains target then level else level ++ [target], b)

/-- The links of one level of vertices, and the next level. -/
def linkLevel (names : List String) (level : List Nat) (b : FailureBuilder) : List Nat × FailureBuilder :=
  level.foldl (fun state id => names.foldl (link id) state) ([], b)

/-- As many levels linked as given, the last one left. -/
def linkLevels (names : List String) : Nat → List Nat → FailureBuilder → FailureBuilder
  | 0, _, b => b
  | n + 1, level, b =>
    let (level, b) := linkLevel names level b
    linkLevels names n level b

/-- The vertices of a rule: every non-empty subset of its nodes. -/
def addSubsets (b : FailureBuilder) (names : List String) : FailureBuilder :=
  let (level, b) := b.singletons names
  linkLevels names (names.length - 1) level b

/-- A rule put at the vertex of its nodes, behind the rules already there. -/
def addRule (b : FailureBuilder) (r : FailureRule) : FailureBuilder :=
  let b := b.addSubsets r.nodes
  match b.graph.walk? r.nodes with
  | none => b
  | some id => b.modifyNode id fun n => { n with fallbacks := n.fallbacks ++ [FallbackEntry.ofRule r] }

end FailureBuilder

def FailureGraph.ofRules (rules : List FailureRule) : FailureGraph :=
  (rules.foldl FailureBuilder.addRule {}).graph

/-! ## Shadowed rules -/

/-- The node lists of the rules that an earlier rule for the same nodes leaves without effect; `closed` holds the sets
of nodes that have a rule without a condition. -/
def FailureRule.shadowedAfter (closed : List NameSet) : List FailureRule → List (List String)
  | [] => []
  | r :: rules =>
    let set := NameSet.ofList r.nodes
    if !r.condition.isAlways then shadowedAfter closed rules
    else if closed.contains set then r.nodes :: shadowedAfter closed rules
    else shadowedAfter (set :: closed) rules

def FailureRule.shadowed (rules : List FailureRule) : List (List String) := shadowedAfter [] rules

end TaskFlow
