import TaskFlow.Flow.Basic

/-!
# Systems

- `System`: the tasks, flows and storages of a configuration, by name;
- `Node`: a task or a flow, with what the two have in common;
- `TaskClass.group`: the tasks by the class that implements them, classes and their tasks in order.
-/

namespace TaskFlow

/-- A class that implements tasks. -/
structure TaskClass where
  moduleName : String
  className : String
  tasks : List String
deriving DecidableEq

namespace TaskClass

/-- The class of a task with this task only. -/
def ofTask (t : Task) : TaskClass := ⟨t.moduleName, t.className, [t.name]⟩

/-- Whether a class stands in front of that of a task, modules first. -/
def before (c : TaskClass) (t : Task) : Bool :=
  c.moduleName < t.moduleName || (c.moduleName == t.moduleName && c.className < t.className)

def implements (c : TaskClass) (t : Task) : Bool := c.moduleName == t.moduleName && c.className == t.className

/-- A task put into its class, which is added in its place where there is none. -/
def insert (t : Task) : List TaskClass → List TaskClass
  | [] => [ofTask t]
  | c :: cs =>
    if c.implements t then { c with tasks := c.tasks ++ [t.name] } :: cs
    else if c.before t then c :: insert t cs
    else ofTask t :: c :: cs

def group (tasks : List Task) : List TaskClass := tasks.foldl (fun cs t => insert t cs) []

end TaskClass

/-- A configuration with all of its parts built. -/
structure System where
  settings : GlobalSettings
  tasks : Dict Task
  flows : Dict Flow
  storages : Dict Storage

/-- A task or a flow. -/
inductive Node where
  | task (t : Task)
  | flow (f : Flow)

namespace Node

def name : Node → String
  | task t => t.name
  | flow f => f.name

def kind : Node → NodeKind
  | task _ => .task
  | flow _ => .flow

/-- The queue of the node's messages: its own one, or that of all nodes of its kind. -/
def queue (settings : GlobalSettings) : Node → String
  | task t => t.queue.getD settings.defaultTaskQueue
  | flow f => f.queue.getD settings.defaultDispatcherQueue

def throttling : Node → Option UInt64
  | task t => t.throttling
  | flow f => f.throttling

def maxRetry : Node → UInt32
  | task t => t.maxRetry
  | flow f => f.maxRetry

def retryCountdown : Node → UInt32
  | task t => t.retryCountdown
  | flow f => f.retryCountdown

end Node

namespace System

variable (s : System)

def node? (name : String) : Option Node :=
  match s.tasks.get? name with
  | some t => some (.task t)
  | none => (s.flows.get? name).map .flow

def kind? (name : String) : Option NodeKind := (s.node? name).map Node.kind

def taskClasses : List TaskClass := TaskClass.group s.tasks.values

/-- The flows that a flow starts, by an edge or as a fallback. -/
def subFlows (f : Flow) : NameSet := f.destinationNodes.filter s.flows.contains

end System

end TaskFlow
