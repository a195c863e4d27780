import TaskFlow.Node.Task
import TaskFlow.Registry.Builtin

/-!
# What a flow definition can refer to

- `GlobalSettings`: the global settings with their defaults filled in;
- `Scope`: the settings, the registered functions, the tasks and the names of the flows. Tasks and flows share their
  names, so a name has at most one kind (`Scope.kind?`).
-/

namespace TaskFlow

/-- The settings of a whole system. -/
structure GlobalSettings where
  predicatesModule : String := Predicates.moduleName
  defaultTaskQueue : String := "flowdag_tasks"
  defaultDispatcherQueue : String := "flowdag_dispatcher"
  traceSinks : List String := []
  migrationDir : Option String := none
deriving DecidableEq

def GlobalSettings.ofDecl (decl : GlobalDecl) : GlobalSettings :=
  let defaults : GlobalSettings := {}
  { predicatesModule := decl.predicatesModule.getD defaults.predicatesModule
    defaultTaskQueue := decl.defaultTaskQueue.getD defaults.defaultTaskQueue
    defaultDispatcherQueue := decl.defaultDispatcherQueue.getD defaults.defaultDispatcherQueue
    traceSinks := decl.trace
    migrationDir := decl.migrationDir }

/-- The kinds of nodes in a flow. -/
inductive NodeKind where
  | task
  | flow
deriving DecidableEq

def NodeKind.text : NodeKind → String
  | task => "task"
  | flow => "flow"

/-- What a flow definition can refer to. -/
structure Scope where
  settings : GlobalSettings
  registry : Registry
  tasks : Dict Task
  flowNames : NameSet

namespace Scope

def kind? (s : Scope) (name : String) : Option NodeKind :=
  if s.tasks.contains name then some .task
  else if s.flowNames.contains name then some .flow
  else none

end Scope

end TaskFlow
