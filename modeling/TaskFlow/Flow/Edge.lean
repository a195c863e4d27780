import TaskFlow.Condition.Check
import TaskFlow.Condition.Construct

/-!
# Edges

- `Edge`: conditioned, out of a set of sources into a set of destinations; a starting edge has no source;
- `Edge.ofDecl`: the edge of a declaration, its nodes, functions and condition known and in place;
- `Edge.check`: what else has to hold inside a flow: no name twice, and destinations that take what the edge hands on.
-/

namespace TaskFlow

/-- A fan-out: the destinations start once for each item that the function yields. -/
structure Foreach where
  function : FunctionRef
  propagateResult : Bool
deriving DecidableEq

/-- A run of the given tasks of the destination flow, and of what they need. -/
structure Selective where
  tasks : List String
  runSubsequent : Propagation
  followSubflows : Bool
deriving DecidableEq

/-- A conditioned edge out of a set of nodes into a set of nodes. -/
structure Edge where
  /-- Empty for starting edges only. -/
  sources : List String
  targets : List String
  condition : Condition
  foreach : Option Foreach
  selective : Option Selective

/-- The two ends of an edge. -/
inductive EdgeEnd where
  | sources
  | targets
deriving DecidableEq

def EdgeEnd.text : EdgeEnd → String
  | sources => "from"
  | targets => "to"

/-- Why an edge is refused. -/
inductive EdgeError where
  | noSources
  | noTargets (sources : List String)
  | unknownNode (node : String)
  | condition (e : ConditionError)
  | unknownForeach (function : FunctionRef)
  | noSelectedTasks (targets : List String)
  | repeatedNode (node : String) (side : EdgeEnd)
  | foreachToTask (function : FunctionRef) (target : String)
  | doubleArguments (target : String)
  | selectiveTask (target : String)
  | selectiveTargets (targets : List String)
deriving DecidableEq

def EdgeError.message : EdgeError → String
  | noSources => "edge is missing the 'from' key (use an empty list for a starting edge)"
  | noTargets sources => "edge from " ++ Text.quoteList sources ++ " has no destination in 'to'"
  | unknownNode node => s!"edge references unknown node '{node}'"
  | condition e => e.message
  | unknownForeach f => s!"unknown foreach function '{f.text}'"
  | noSelectedTasks targets => "selective edge to " ++ Text.quoteList targets ++ " lists no tasks"
  | repeatedNode node side => s!"node '{node}' is listed twice in '{side.text}' of one edge"
  | foreachToTask f target =>
    s!"foreach '{f.text}' propagates its result, but destination '{target}' is not a flow"
  | doubleArguments target =>
    s!"destination '{target}' cannot receive both the foreach result and propagated node arguments"
  | selectiveTask target => s!"selective run requires a flow destination, '{target}' is a task"
  | selectiveTargets targets =>
    "selective run requires exactly one destination, got " ++ Text.quoteList targets

namespace Edge

def isStarting (e : Edge) : Bool := e.sources.isEmpty

/-! ## From declarations -/

/-- The fan-out of a declaration, its function registered. -/
def foreachOf (registry : Registry) : Option ForeachDecl → Except EdgeError (Option Foreach)
  | none => .ok none
  | some decl =>
    let f : FunctionRef := ⟨decl.moduleName, decl.function⟩
    if registry.hasForeach f then .ok (some ⟨f, decl.propagateResult⟩) else .error (.unknownForeach f)

/-- The selective run of a declaration, with a task at least. -/
def selectiveOf (targets : List String) : Option SelectiveDecl → Except EdgeError (Option Selective)
  | none => .ok none
  | some decl =>
    if decl.tasks.isEmpty then .error (.noSelectedTasks targets)
    else .ok (some ⟨decl.tasks, decl.runSubsequent, decl.followSubflows⟩)

/-- Both ends of a declaration, all nodes known. -/
def endsOf (s : Scope) (decl : EdgeDecl) : Except EdgeError (List String × List String) :=
  match decl.sources, decl.targets.getD [] with
  | none, _ => .error .noSources
  | some sources, [] => .error (.noTargets sources)
  | some sources, targets =>
    match (sources ++ targets).find? fun node => (s.kind? node).isNone with
    | some node => .error (.unknownNode node)
    | none => .ok (sources, targets)

def ofDecl (s : Scope) (decl : EdgeDecl) : Except EdgeError Edge := do
  let (sources, targets) ← endsOf s decl
  let condition ← (Condition.ofDecl s sources decl.condition).mapError .condition
  (condition.check s sources (!sources.isEmpty)).mapError .condition
  let foreach ← foreachOf s.registry decl.foreach
  let selective ← selectiveOf targets decl.selective
  return ⟨sources, targets, condition, foreach, selective⟩

/-! ## Inside a flow -/

def checkDistinct (side : EdgeEnd) (names : List String) : Except EdgeError Unit :=
  match NameSet.repeated? [] names with
  | some node => .error (.repeatedNode node side)
  | none => .ok ()

/-- A destination of a fan-out that hands on its items: a flow that gets no other arguments. -/
def checkForeachTarget (s : Scope) (nodeArgs : Propagation) (f : FunctionRef) (target : String) :
    Except EdgeError Unit :=
  if s.kind? target ≠ some .flow then .error (.foreachToTask f target)
  else if nodeArgs.appliesTo target then .error (.doubleArguments target)
  else .ok ()

def checkForeach (s : Scope) (nodeArgs : Propagation) (e : Edge) : Except EdgeError Unit :=
  match e.foreach with
  | none => .ok ()
  | some f => if f.propagateResult then e.targets.forM (checkForeachTarget s nodeArgs f.function) else .ok ()

def checkSelective (s : Scope) (e : Edge) : Except EdgeError Unit :=
  match e.selective, e.targets with
  | none, _ => .ok ()
  | some _, [target] => if s.kind? target = some .flow then .ok () else .error (.selectiveTask target)
  | some _, targets => .error (.selectiveTargets targets)

/-- What has to hold inside a flow that hands on its arguments to the nodes that `nodeArgs` gives. -/
def check (s : Scope) (nodeArgs : Propagation) (e : Edge) : Except EdgeError Unit := do
  checkDistinct .sources e.sources
  checkDistinct .targets e.targets
  checkForeach s nodeArgs e
  checkSelective s e

end Edge

end TaskFlow
