import TaskFlow.System.Consistency

/-!
# Systems from configurations

- `System.build`: storages, then tasks, then flows in the order of their declarations; every definition that fails is
  reported and the first failure is the error, and a system that is complete has its flows checked;
- parts that nothing uses are reported.
-/

namespace TaskFlow

namespace System

def checkTraceSinks (registry : Registry) (settings : GlobalSettings) : Except ConfigError Unit :=
  match settings.traceSinks.find? fun name => !registry.hasTraceSink name with
  | some name => .error (.unknownTraceSink name)
  | none => .ok ()

def buildStorage (decl : StorageDecl) : Except ConfigError (String × Storage) :=
  match Storage.ofDecl decl with
  | .ok storage => .ok (storage.name, storage)
  | .error e => .error (.cache s!"storage '{decl.name}'" e)

/-- A task whose storage is declared. -/
def buildTask (registry : Registry) (storages : Dict Storage) (decl : TaskDecl) :
    Logged ConfigError (String × Task) := do
  let task ← (Task.ofDecl registry decl).mapError (.task decl.name)
  match task.storage with
  | none => return (task.name, task)
  | some storage =>
    if storages.contains storage then return (task.name, task)
    else Logged.fail (.unknownStorage task.name storage)

def buildFlow (scope : Scope) (d : FlowDefinition) : Logged ConfigError (String × Flow) := do
  let flow ← (Flow.ofDefinition scope d).mapError (.flow d.name)
  return (flow.name, flow)

/-- The event for a definition that gives no flow. -/
def invalidDefinition (d : FlowDefinition) (e : ConfigError) : Event :=
  .invalidDefinition d.name (Error.config e).message

/-! ## Parts without use -/

/-- The storages that no task names. -/
def unusedStorages (s : System) : List String :=
  s.storages.keys.filter fun name => !s.tasks.values.any fun t => t.storage == some name

/-- The tasks that no flow names. -/
def unusedTasks (s : System) : List String :=
  let used := s.flows.values.map Flow.usedNodes
  s.tasks.keys.filter fun name => !used.any fun set => set.contains name

def unusedEvents (s : System) : List Event :=
  s.unusedStorages.map .unusedStorage ++ s.unusedTasks.map .unusedTask

/-! ## The whole system -/

def build (config : Configuration) (registry : Registry) : Logged ConfigError System := do
  let nodes := config.nodes
  let settings := GlobalSettings.ofDecl nodes.globals
  Logged.ofExcept (checkTraceSinks registry settings)
  let storages ← Logged.ofExcept (nodes.storages.mapM buildStorage)
  let storages := Dict.ofList storages
  let tasks ← Logged.forAll (buildTask registry storages) nodes.tasks
  let tasks := Dict.ofList tasks
  let scope : Scope := ⟨settings, registry, tasks, NameSet.ofList nodes.flows⟩
  let flows ← Logged.attemptAll (buildFlow scope) invalidDefinition config.definitions
  let system : System := ⟨settings, tasks, Dict.ofList flows, storages⟩
  system.checkFlows
  Logged.reportAll system.unusedEvents
  Logged.report (.systemBuilt system.tasks.size system.flows.size system.storages.size)
  return system

end System

end TaskFlow
