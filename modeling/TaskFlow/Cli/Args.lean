import TaskFlow.Log.Event

/-!
# Command-line arguments

- `Args`: what a run is asked to do;
- `Args.parse`: the arguments read from left to right. An option waits for its value until the next argument and takes
  effect when the following option begins, so an unknown argument is found first; `UsageError` says what is wrong.
-/

namespace TaskFlow

/-- What a run is asked to do. -/
structure Args where
  nodes : String
  flows : List String
  output : Option String
  logLevel : Option Level
  dryRun : Bool
deriving DecidableEq

/-- Why the arguments ask for no run. -/
inductive UsageError where
  | displayHelp
  | displayVersion
  | unknownArgument
  | tooManyValues
  | argumentConflict
  | invalidValue
  | missingRequiredArgument
deriving DecidableEq

namespace Level

def all : List Level := [error, warn, info, debug, trace]

/-- The level as an option value. -/
def text : Level → String
  | error => "error"
  | warn => "warn"
  | info => "info"
  | debug => "debug"
  | trace => "trace"

/-- The level of an option value, in lower case only. -/
def ofText? (s : String) : Option Level := all.find? fun l => l.text == s

end Level

namespace Args

/-- The options that take a value. -/
inductive Setting where
  | nodes
  | flow
  | output
  | logLevel
deriving DecidableEq

def Setting.text : Setting → String
  | nodes => "nodes"
  | flow => "flow"
  | output => "output"
  | logLevel => "log-level"

def Setting.ofText? (s : String) : Option Setting :=
  [Setting.nodes, .flow, .output, .logLevel].find? fun o => o.text == s

/-- The options without a value. -/
inductive Switch where
  | dryRun
  | help
  | version
deriving DecidableEq

def Switch.text : Switch → String
  | dryRun => "dry-run"
  | help => "help"
  | version => "version"

def Switch.ofText? (s : String) : Option Switch :=
  [Switch.dryRun, .help, .version].find? fun o => o.text == s

/-! ## Kinds of arguments -/

/-- An argument on its own. -/
inductive Token where
  /-- The end of the options. -/
  | terminator
  | setting (o : Setting) (value : Option String)
  | switch (o : Switch) (value : Option String)
  | unknown
  | value (text : String)
deriving DecidableEq

/-- The name of a long option and the value behind an equality sign. -/
def Token.long (cs : List Char) : Token :=
  let name := String.ofList (cs.takeWhile (· != '='))
  let value := (cs.dropWhile (· != '=')).tail?.map String.ofList
  match Setting.ofText? name, Switch.ofText? name with
  | some o, _ => .setting o value
  | none, some o => .switch o value
  | none, none => .unknown

def Token.ofText (s : String) : Token :=
  match s.toList with
  | ['-', '-'] => .terminator
  | '-' :: '-' :: cs => long cs
  | '-' :: 'h' :: _ => .switch .help none
  | '-' :: 'V' :: _ => .switch .version none
  | '-' :: _ :: _ => .unknown
  | _ => .value s

/-! ## Reading -/

/-- The options in effect so far, and the one that waits. -/
structure State where
  nodes : Option String := none
  flows : List String := []
  output : Option String := none
  logLevel : Option Level := none
  dryRun : Bool := false
  waiting : Option (Setting × Option String) := none

/-- A value set once. -/
def once {α : Type} (old : Option α) (new : α) : Except UsageError (Option α) :=
  match old with
  | some _ => .error .argumentConflict
  | none => .ok (some new)

/-- A setting put into effect. -/
def State.set (st : State) (o : Setting) (value : String) : Except UsageError State :=
  match o with
  | .nodes => (once st.nodes value).map fun v => { st with nodes := v }
  | .flow => .ok { st with flows := st.flows ++ [value] }
  | .output => (once st.output value).map fun v => { st with output := v }
  | .logLevel =>
    match st.logLevel, Level.ofText? value with
    | some _, _ => .error .argumentConflict
    | none, none => .error .invalidValue
    | none, some level => .ok { st with logLevel := some level }

/-- The waiting option put into effect. -/
def State.settle (st : State) : Except UsageError State :=
  match st.waiting with
  | none => .ok st
  | some (_, none) => .error .invalidValue
  | some (o, some value) => { st with waiting := none }.set o value

def State.switchOn (st : State) : Switch → Except UsageError State
  | .help => .error .displayHelp
  | .version => .error .displayVersion
  | .dryRun => if st.dryRun then .error .argumentConflict else .ok { st with dryRun := true }

/-- One argument in front of the end of the options. -/
def State.step (st : State) : Token → Except UsageError State
  | .terminator => .ok st
  | .setting o (some value) => do (← st.settle).set o value
  | .setting o none => do return { ← st.settle with waiting := some (o, none) }
  | .switch _ (some _) => .error .tooManyValues
  | .switch o none => do (← st.settle).switchOn o
  | .unknown => .error .unknownArgument
  | .value text =>
    match st.waiting with
    | some (o, none) => .ok { st with waiting := some (o, some text) }
    | _ => .error .unknownArgument

/-- All arguments; behind the end of the options none is expected. -/
def State.run (st : State) : List Token → Except UsageError State
  | [] => st.settle
  | [.terminator] => st.settle
  | .terminator :: _ :: _ => .error .unknownArgument
  | t :: ts => do (← st.step t).run ts

/-- The arguments of a run. -/
def parse (args : List String) : Except UsageError Args := do
  let st ← ({} : State).run (args.map Token.ofText)
  if st.flows.isEmpty then throw .missingRequiredArgument
  return {
    nodes := st.nodes.getD "nodes.toml"
    flows := st.flows
    output := st.output
    logLevel := st.logLevel
    dryRun := st.dryRun }

end Args

end TaskFlow
