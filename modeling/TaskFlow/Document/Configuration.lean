import TaskFlow.Document.Basic
import TaskFlow.Log.Logged

/-!
# Structural checks

- `Configuration`: documents that passed the structural checks, one definition for each declared flow in the order
  of declaration;
- `Documents.check`: tasks, flows and storages share one set of valid names without repeats, at least one flow is
  declared, and the definitions are those of the declared flows; `DeclarationError` says what is wrong first.
-/

namespace TaskFlow

/-- The kinds of declared names, in the order in which they are checked. -/
inductive NameKind where
  | task
  | flow
  | storage
deriving DecidableEq

def NameKind.text : NameKind → String
  | task => "task"
  | flow => "flow"
  | storage => "storage"

/-- Why documents are no configuration. -/
inductive DeclarationError where
  | invalidName (kind : NameKind) (name : String)
  | repeatedName (kind : NameKind) (name : String)
  | sharedName (name : String) (first second : NameKind)
  | noFlows
  | repeatedDefinition (flow : String)
  | undeclaredDefinition (flow : String)
  | missingDefinition (flow : String)
deriving DecidableEq

def DeclarationError.message : DeclarationError → String
  | invalidName kind name => s!"invalid {kind.text} name '{name}': names must match [A-Za-z_][A-Za-z0-9_]*"
  | repeatedName kind name => s!"{kind.text} '{name}' is declared multiple times"
  | sharedName name first second => s!"name '{name}' is used by both a {first.text} and a {second.text}"
  | noFlows => "nodes document must declare at least one flow in `flows`"
  | repeatedDefinition flow => s!"flow '{flow}' is defined multiple times"
  | undeclaredDefinition flow => s!"flow '{flow}' is defined but not declared in the nodes document"
  | missingDefinition flow => s!"flow '{flow}' is declared but has no definition"

/-! ## Names -/

/-- Letters, digits and underscores of ASCII, no digit in front. -/
def isValidName (name : String) : Bool :=
  match name.toList with
  | [] => false
  | c :: cs => (c.isAlpha || c == '_') && cs.all fun c => c.isAlphanum || c == '_'

/-- The declared names, tasks first, then flows, then storages. -/
def NodesDocument.declaredNames (doc : NodesDocument) : List (String × NameKind) :=
  doc.tasks.map (fun t => (t.name, .task)) ++ doc.flows.map (fun f => (f, .flow)) ++
    doc.storages.map fun s => (s.name, .storage)

/-- Every name valid and none in use already. -/
def checkNames (seen : List (String × NameKind)) : List (String × NameKind) → Except DeclarationError Unit
  | [] => .ok ()
  | (name, kind) :: rest =>
    if !isValidName name then .error (.invalidName kind name)
    else match seen.lookup name with
      | some first =>
        .error (if first = kind then .repeatedName kind name else .sharedName name first kind)
      | none => checkNames ((name, kind) :: seen) rest

def NodesDocument.check (doc : NodesDocument) : Except DeclarationError Unit := do
  checkNames [] doc.declaredNames
  if doc.flows.isEmpty then .error .noFlows else .ok ()

/-! ## Definitions -/

/-- Every definition the first of its name, and of a declared flow. -/
def checkDefinitions (declared : List String) (seen : List String) :
    List FlowDefinition → Except DeclarationError Unit
  | [] => .ok ()
  | d :: ds =>
    if seen.contains d.name then .error (.repeatedDefinition d.name)
    else if !declared.contains d.name then .error (.undeclaredDefinition d.name)
    else checkDefinitions declared (d.name :: seen) ds

/-- The definition of each declared flow. -/
def collectDefinitions (definitions : List FlowDefinition) : List String → Except DeclarationError (List FlowDefinition)
  | [] => .ok []
  | name :: names =>
    match definitions.find? fun d => d.name == name with
    | none => .error (.missingDefinition name)
    | some d => (collectDefinitions definitions names).map (d :: ·)

/-- Documents that passed the structural checks. -/
structure Configuration where
  nodes : NodesDocument
  definitions : List FlowDefinition

namespace Documents

/-- The definitions of all flow documents. -/
def definitions (docs : Documents) : List FlowDefinition := docs.flows.flatMap (·.definitions)

/-- The configuration of sound documents. -/
def configuration (docs : Documents) : Except DeclarationError Configuration := do
  docs.nodes.check
  checkDefinitions docs.nodes.flows [] docs.definitions
  let definitions ← collectDefinitions docs.definitions docs.nodes.flows
  return ⟨docs.nodes, definitions⟩

/-- The structural checks, with a warning about definitions without edges. -/
def check (docs : Documents) : Logged DeclarationError Configuration := do
  let config ← Logged.ofExcept docs.configuration
  Logged.reportIf (config.definitions.any fun d => d.edges.isEmpty) .emptyDefinition
  return config

end Documents

end TaskFlow
