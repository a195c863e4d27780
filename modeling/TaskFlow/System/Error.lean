import TaskFlow.Document.Configuration
import TaskFlow.Flow.Error

/-!
# Errors

- `ConfigError`: why a configuration does not compile;
- `Error`: everything that can go wrong, with its text `Error.message`.
-/

namespace TaskFlow

/-- Why a selective run has no plan. -/
inductive SelectiveError where
  | unknownTarget (target : String)
  | notRun (target task : String)
  | noEdges (target : String)
deriving DecidableEq

def SelectiveError.message : SelectiveError → String
  | unknownTarget target => s!"selective run targets unknown flow '{target}'"
  | notRun target task => s!"selective run of flow '{target}' requests '{task}' which the flow does not run"
  | noEdges target => s!"selective run of flow '{target}' plans no edges"

/-- Why a configuration does not compile. -/
inductive ConfigError where
  | declaration (e : DeclarationError)
  | unknownTraceSink (name : String)
  | cache (owner : String) (e : CacheError)
  | throttling (owner : String) (e : DurationError)
  | task (name : String) (e : TaskError)
  | unknownStorage (task storage : String)
  | flow (name : String) (e : FlowError)
  | selective (e : SelectiveError)

def ConfigError.message : ConfigError → String
  | declaration e => e.message
  | unknownTraceSink name => s!"unknown trace sink '{name}'"
  | cache owner e => s!"{owner}: {e.message}"
  | throttling owner e => s!"{owner}: {e.message}"
  | task name e => s!"task '{name}': {e.message}"
  | unknownStorage owner storage => s!"task '{owner}' references unknown storage '{storage}'"
  | flow name e => s!"flow '{name}': {e.message}"
  | selective e => e.message

/-- The errors of inconsistent definitions and of their flows. -/
def ConfigError.inconsistent (flow : String) (e : Inconsistency) : ConfigError := .flow flow (.inconsistent e)

/-- Everything that can go wrong. -/
inductive Error where
  | config (e : ConfigError)
  | evaluation (e : EvalError)
  /-- A document that is no text of its format, or has keys or values of the wrong kind. -/
  | malformedDocument
  /-- The same of a stored table. -/
  | malformedTable
  | io (reason : String)

namespace Error

def message : Error → String
  | config e => "Configuration error: " ++ e.message
  | evaluation e => "Evaluation error: " ++ e.message
  | malformedDocument => "TOML parsing error"
  | malformedTable => "JSON error"
  | io reason => "IO error: " ++ reason

/-- Whether the error lies in the configuration, its documents and files included. -/
def isConfiguration : Error → Bool
  | config _ | malformedDocument | io _ => true
  | evaluation _ | malformedTable => false

end Error

end TaskFlow
