import TaskFlow.Digest.Blake3
import TaskFlow.Dispatch.Codec

/-!
# Compiling configurations

- `DispatchTable.sign` puts the digest of a table into it, `DispatchTable.verify` compares it again. The digest
  function is a parameter; `digest` is the one in use;
- `compile`: the signed table of a configuration.
-/

namespace TaskFlow

/-- The digest of a text that tables carry. -/
def digest : String → String := Blake3.hexDigest

namespace DispatchTable

variable (digest : String → String)

/-- The digest of a table without its fingerprint. -/
def digestWith (t : DispatchTable) : String :=
  digest ({ t with fingerprint := "" } : DispatchTable).toJson.compact

def sign (t : DispatchTable) : DispatchTable := { t with fingerprint := t.digestWith digest }

/-- Whether the fingerprint is that of the table. -/
def verify (t : DispatchTable) : Bool := t.digestWith digest == t.fingerprint

def ofSystem (s : System) : Logged ConfigError DispatchTable := do
  let flows ← Logged.forAll (fun f => return (f.name, ← FlowTable.ofFlow s f)) s.flows.values
  let table : DispatchTable := {
    fingerprint := ""
    settings := s.settings
    flows := Dict.ofList flows
    tasks := Dict.ofList (s.tasks.values.map fun t => (t.name, TaskEntry.ofTask s.settings t))
    storages := Dict.ofList (s.storages.values.map fun s => (s.name, StorageEntry.ofStorage s)) }
  let table := table.sign digest
  Logged.report (.tableEmitted table.fingerprint)
  return table

end DispatchTable

/-- The dispatch table of a configuration. -/
def compileWith (digest : String → String) (config : Configuration) (registry : Registry) :
    Logged Error DispatchTable :=
  ((System.build config registry).bind (DispatchTable.ofSystem digest)).mapError .config

def compile : Configuration → Registry → Logged Error DispatchTable := compileWith digest

/-- The structural checks and the compilation in one. -/
def Documents.compile (docs : Documents) (registry : Registry) : Logged Error DispatchTable := do
  let config ← docs.check.mapError fun e => .config (.declaration e)
  TaskFlow.compile config registry

/-- The structural checks and the system in one. -/
def Documents.system (docs : Documents) (registry : Registry) : Logged Error System := do
  let config ← docs.check.mapError fun e => .config (.declaration e)
  (System.build config registry).mapError .config

end TaskFlow
