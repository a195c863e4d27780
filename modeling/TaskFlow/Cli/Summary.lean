import TaskFlow.Dispatch.Table
import TaskFlow.Text.Quoted

/-!
# The summary of a dry run

- `DispatchTable.summary`: the settings, flows and tasks of a table, a line for each edge and each fallback.
-/

namespace TaskFlow

/-- A fallback as the summary shows it. -/
def Fallback.summary : Fallback → String
  | stopFlow => "StopFlow"
  | nodes names => "Nodes(" ++ Text.quoteList names ++ ")"

namespace EdgeEntry

def summary (e : EdgeEntry) : List String :=
  let ends := Text.quoteList e.sources ++ " -> " ++ Text.quoteList e.targets
  let foreach := e.foreach.toList.map fun f => s!"        foreach: {f.function.text}"
  let selective := e.selective.toList.map fun s => "        selective: " ++ Text.quoteList s.tasks
  s!"      {ends} if {e.conditionText}" :: foreach ++ selective

end EdgeEntry

/-- The fallbacks of a set of failed nodes. -/
def FailureNode.summary (n : FailureNode) : List String :=
  let failed := Text.quoteSet n.traversed.names
  n.fallbacks.map fun e => s!"      on failure of {failed}: {e.fallback.summary} if {e.conditionText}"

/-- A set of nodes under a label, where there are any. -/
def FlowTable.namesLine (label : String) (set : NameSet) : List String :=
  if set.isEmpty then [] else ["      " ++ label ++ ": " ++ Text.quoteSet set.names]

def FlowTable.summary (name : String) (f : FlowTable) : List String :=
  s!"  - {name} (queue: {f.queue})" :: f.edges.flatMap EdgeEntry.summary ++
    f.failures.nodes.flatMap FailureNode.summary ++
    namesLine "nowait" f.nowait ++ namesLine "eager_failures" f.eagerFailures

def TaskEntry.summary (name : String) (t : TaskEntry) : List String :=
  [s!"  - {name}", s!"      class: {t.moduleName}.{t.className}", s!"      queue: {t.queue}"] ++
    t.storage.toList.map fun storage => s!"      storage: {storage}"

namespace DispatchTable

/-- The lines of the summary. -/
def summaryLines (t : DispatchTable) : List String :=
  ["flowdag dry-run",
    s!"  fingerprint = {t.fingerprint}",
    s!"  default task queue = {t.settings.defaultTaskQueue}",
    s!"  default dispatcher queue = {t.settings.defaultDispatcherQueue}",
    "",
    s!"flows ({t.flows.size}):"] ++
    t.flows.entries.flatMap (fun e => e.2.summary e.1) ++
    ["", s!"tasks ({t.tasks.size}):"] ++
    t.tasks.entries.flatMap fun e => e.2.summary e.1

def summary (t : DispatchTable) : String := String.join (t.summaryLines.map fun line => line ++ "\n")

end DispatchTable

end TaskFlow
