import TaskFlow.Dispatch.Compile
import TaskFlow.Proofs.Json.Serial
import TaskFlow.Proofs.Log.Fault
import TaskFlow.Proofs.Toml.Conversion

/-!
# Compiling with every failure that is possible

- `Fallible.compile`: the compilation step by step, where also the conversion of a value and the writing of the table
  may fail. The conversion of scalars is a parameter;
- `Fallible.edge`, `Fallible.rule`, `Fallible.flow` and the like: its steps, one for each part of a configuration that
  is built with such a conversion in it;
- `Fallible.compile_scalarJson?`: with the conversion in use it is `compileWith`, events included.
-/

namespace TaskFlow

/-- The error of the whole. -/
def Fault.error : Fault ConfigError → Error
  | refused e => .config e
  | json => .malformedTable
  | evaluation e => .evaluation e

namespace Fallible

/-! ## Steps -/

/-! ### Conditions -/

section

variable (leaf : List (String × Toml) → Except (Fault ConditionError) Call)

mutual

/-- The condition that a table declares, with the calls as they come from the fields of their tables. -/
def condition : Toml → Except (Fault ConditionError) Condition
  | .table [] => .error (.refused .empty)
  | .table [(key, inner)] =>
    match Combinator.find? [(key, inner)] with
    | none => (leaf [(key, inner)]).map .call
    | some .not =>
      match inner with
      | .arr _ => .error (.refused .negatedList)
      | inner => (condition inner).map .negate
    | some c =>
      match inner with
      | .arr (item :: items) =>
        (conditions (item :: items)).map fun cs => if c = .and then .all cs else .any cs
      | _ => .error (.refused (.noList c))
  | .table fields =>
    match Combinator.find? fields with
    | none => (leaf fields).map .call
    | some c => .error (.refused (.notAlone c))
  | t => .error (.refused (.notTable t.kind))

def conditions : List Toml → Except (Fault ConditionError) (List Condition)
  | [] => .ok []
  | t :: ts => do
    let c ← condition t
    let cs ← conditions ts
    return c :: cs

end

end

section

variable (scalar : Toml → Option Json)

/-- The arguments of a call, all converted before they are compared with what the predicate takes. -/
def callArgs (f : FunctionRef) (p : PredicateSignature) (fields : List (String × Toml)) :
    Except (Fault ConditionError) (Dict Json) := do
  let args ← match fields.lookup "args" with
    | none => .ok Dict.empty
    | some (.table args) => (Fault.converted (Toml.convertFields? scalar args)).map Dict.ofList
    | some _ => .error (.refused (.argsNotTable f))
  ((matchArguments p.explicitParams args.keys).mapError (.argumentMismatch f)).mapError .refused
  return args

def call (s : Scope) (sources : List String) (fields : List (String × Toml)) : Except (Fault ConditionError) Call :=
  match fields.find? fun e => !Call.keys.contains e.1 with
  | some (key, _) => .error (.refused (.unknownKey key))
  | none => do
    let f ← (Call.functionOf s fields).mapError .refused
    match s.registry.predicate? f with
    | none => .error (.refused (.unknownPredicate f))
    | some p =>
      let args ← callArgs scalar f p fields
      let node ← (Call.nodeOf f fields).mapError .refused
      let node ← (Call.bindNode f p sources node).mapError .refused
      return Call.ofSignature f node args p

def conditionOf (s : Scope) (sources : List String) : Option Toml → Except (Fault ConditionError) Condition
  | none => .ok .always
  | some t => condition (call scalar s sources) t

/-! ### Parts of a configuration -/

def edge (s : Scope) (decl : EdgeDecl) : Except (Fault EdgeError) Edge := do
  let (sources, targets) ← (Edge.endsOf s decl).mapError .refused
  let condition ← (conditionOf scalar s sources decl.condition).mapError (Fault.map .condition)
  ((condition.check s sources (!sources.isEmpty)).mapError .condition).mapError .refused
  let foreach ← (Edge.foreachOf s.registry decl.foreach).mapError .refused
  let selective ← (Edge.selectiveOf targets decl.selective).mapError .refused
  return ⟨sources, targets, condition, foreach, selective⟩

def rule (s : Scope) (decl : FailureDecl) : Except (Fault RuleError) FailureRule := do
  if decl.nodes.isEmpty then throw (.refused .noNodes)
  (FailureRule.checkNodes s [] decl.nodes).mapError .refused
  let fallback ← (FailureRule.fallbackOf s decl.nodes decl.fallback).mapError .refused
  (FailureRule.checkFallback decl.nodes fallback decl.propagateFailure).mapError .refused
  let condition ← (conditionOf scalar s decl.nodes decl.condition).mapError (Fault.map .condition)
  ((condition.check s decl.nodes false).mapError .condition).mapError .refused
  return ⟨decl.nodes, fallback, decl.propagateFailure, condition⟩

/-- The strategy of a flow, its arguments converted after they are compared with what it takes. -/
def sampling (registry : Registry) : Option SamplingDecl → Except (Fault SamplingError) Sampling
  | none => .ok Sampling.standard
  | some decl =>
    let f : FunctionRef := ⟨decl.moduleName.getD Strategies.moduleName, decl.name⟩
    match registry.strategy? f with
    | none => .error (.refused (.unknownStrategy f))
    | some strategy => do
      ((matchArguments strategy.params (decl.args.map (·.1))).mapError (.argumentMismatch f)).mapError .refused
      let args ← Fault.converted (Toml.convertFields? scalar decl.args)
      return ⟨f, Dict.ofList args⟩

def flow (s : Scope) (d : FlowDefinition) : Logged (Fault FlowError) Flow := do
  let edges ← Logged.readAll (edge scalar s) (Fault.map .edge) d.edges
  let rules ← Logged.readAll (rule scalar s) (Fault.map .failureRule) d.failures
  let cache ← Logged.ofExcept (((CacheSpec.ofOptional d.cache).mapError .cache).mapError .refused)
  let throttling ← Logged.ofExcept (((DurationSpec.throttling d.throttling).mapError .throttling).mapError .refused)
  Logged.reportIf (throttling == some 0) (.zeroFlowThrottling d.name)
  Logged.reportAll ((FailureRule.shadowed rules).map .shadowedRule)
  Logged.report (.failureGraphBuilt rules.length (FailureGraph.ofRules rules).size)
  let sampling ← Logged.ofExcept ((sampling scalar s.registry d.sampling).mapError (Fault.map .sampling))
  Logged.ofExcept (((edges.forM (Edge.check s d.propagation.nodeArgs)).mapError .edge).mapError .refused)
  Logged.report (.flowBuilt d.name edges.length rules.length)
  return {
    name := d.name
    edges := edges
    rules := rules
    nowait := NameSet.ofList d.nowait
    eagerFailures := NameSet.ofList d.eagerFailures
    propagation := d.propagation
    nodeArgsFromFirst := d.nodeArgsFromFirst
    cache := cache
    sampling := sampling
    throttling := throttling
    maxRetry := d.maxRetry
    retryCountdown := d.retryCountdown
    queue := d.queue }

def namedFlow (s : Scope) (d : FlowDefinition) : Logged (Fault ConfigError) (String × Flow) := do
  let flow ← (flow scalar s d).mapError (Fault.map (.flow d.name))
  return (flow.name, flow)

/-- A storage under its name; its configuration is converted as one table. -/
def namedStorage (decl : StorageDecl) : Except (Fault ConfigError) (String × Storage) := do
  let cache ← ((CacheSpec.ofOptional decl.cache).mapError (.cache s!"storage '{decl.name}'")).mapError .refused
  let configuration ← Fault.converted (Toml.convert? scalar (.table decl.configuration))
  return (decl.name, {
    name := decl.name
    className := decl.className.getD decl.name
    moduleName := decl.moduleName
    configuration := configuration
    cache := cache })

/-- The event for a definition that gives no flow. -/
def invalidDefinition (d : FlowDefinition) (fault : Fault ConfigError) : Event :=
  .invalidDefinition d.name fault.error.message

def system (config : Configuration) (registry : Registry) : Logged (Fault ConfigError) System := do
  let nodes := config.nodes
  let settings := GlobalSettings.ofDecl nodes.globals
  Logged.ofExcept ((System.checkTraceSinks registry settings).mapError .refused)
  let storages ← Logged.ofExcept (nodes.storages.mapM (namedStorage scalar))
  let storages := Dict.ofList storages
  let tasks ← (Logged.forAll (System.buildTask registry storages) nodes.tasks).mapError .refused
  let tasks := Dict.ofList tasks
  let scope : Scope := ⟨settings, registry, tasks, NameSet.ofList nodes.flows⟩
  let flows ← Logged.attemptAll (namedFlow scalar scope) invalidDefinition config.definitions
  let system : System := ⟨settings, tasks, Dict.ofList flows, storages⟩
  system.checkFlows.mapError .refused
  Logged.reportAll system.unusedEvents
  Logged.report (.systemBuilt system.tasks.size system.flows.size system.storages.size)
  return system

end

section

variable (digest : String → String)

/-- The digest of a table that has none yet, if it can be written. -/
def fingerprint (t : DispatchTable) : Except (Fault ConfigError) String :=
  (Fault.converted t.toJson.serial.write?).map digest

def table (s : System) : Logged (Fault ConfigError) DispatchTable := do
  let flows ← (Logged.forAll (fun f => return (f.name, ← FlowTable.ofFlow s f)) s.flows.values).mapError .refused
  let unsigned : DispatchTable := {
    fingerprint := ""
    settings := s.settings
    flows := Dict.ofList flows
    tasks := Dict.ofList (s.tasks.values.map fun t => (t.name, TaskEntry.ofTask s.settings t))
    storages := Dict.ofList (s.storages.values.map fun s => (s.name, StorageEntry.ofStorage s)) }
  let fingerprint ← Logged.ofExcept (fingerprint digest unsigned)
  Logged.report (.tableEmitted fingerprint)
  return { unsigned with fingerprint := fingerprint }

end

/-- The dispatch table of a configuration, or what failed. -/
def compile (scalar : Toml → Option Json) (digest : String → String) (config : Configuration) (registry : Registry) :
    Logged Error DispatchTable :=
  ((system scalar config registry).bind (table digest)).mapError Fault.error

/-! ## The steps in use -/

theorem callArgs_scalarJson? (f : FunctionRef) (p : PredicateSignature) (fields : List (String × Toml)) :
    callArgs Toml.scalarJson? f p fields = (Call.argsOf f p fields).mapError .refused := by
  unfold callArgs Call.argsOf
  cases fields.lookup "args" with
  | none =>
    simp only [Except.mapError_bind]
    rfl
  | some t =>
    cases t with
    | table args =>
      simp only [Toml.convertFields?_scalarJson?, Except.mapError_bind]
      rfl
    | _ => rfl

theorem call_scalarJson? (s : Scope) (sources : List String) (fields : List (String × Toml)) :
    call Toml.scalarJson? s sources fields = (Call.ofFields s sources fields).mapError .refused := by
  unfold call Call.ofFields
  cases fields.find? fun e => !Call.keys.contains e.1 with
  | some e => rfl
  | none =>
    simp only [Except.mapError_bind]
    congr 1
    funext f
    cases s.registry.predicate? f with
    | none => rfl
    | some p =>
      simp only [Except.mapError_bind, callArgs_scalarJson?]
      rfl

section

variable {leaf : List (String × Toml) → Except (Fault ConditionError) Call} {s : Scope} {sources : List String}

mutual

/-- A condition is the one in use where its calls are. -/
theorem condition_eq (h : ∀ fields, leaf fields = (Call.ofFields s sources fields).mapError .refused) :
    ∀ t : Toml, condition leaf t = (Condition.ofTable s sources t).mapError .refused
  | .table [] => rfl
  | .table [(key, inner)] => by
    have hinner := condition_eq h inner
    unfold condition Condition.ofTable
    cases Combinator.find? [(key, inner)] with
    | none => simp only [h, Except.mapError_map]
    | some c =>
      cases c with
      | not =>
        cases inner with
        | arr items => rfl
        | _ => simp only [hinner, Except.mapError_map]
      | and | or =>
        cases inner with
        | arr items =>
          cases items with
          | nil => rfl
          | cons item items => simp only [conditions_eq h (item :: items), Except.mapError_map]
        | _ => rfl
  | .table (f :: g :: fields) => by
    unfold condition Condition.ofTable
    cases Combinator.find? (f :: g :: fields) with
    | none => simp only [h, Except.mapError_map]
    | some c => rfl
  | .void | .str _ | .int _ | .real _ | .bool _ | .datetime _ | .arr _ => rfl

theorem conditions_eq (h : ∀ fields, leaf fields = (Call.ofFields s sources fields).mapError .refused) :
    ∀ ts : List Toml, conditions leaf ts = (Condition.ofItems s sources ts).mapError .refused
  | [] => rfl
  | t :: ts => by
    rw [conditions, Condition.ofItems, condition_eq h t, conditions_eq h ts]
    simp only [Except.mapError_bind]
    rfl

end

end

theorem conditionOf_scalarJson? (s : Scope) (sources : List String) (t : Option Toml) :
    conditionOf Toml.scalarJson? s sources t = (Condition.ofDecl s sources t).mapError .refused := by
  cases t with
  | none => rfl
  | some t => exact condition_eq (call_scalarJson? s sources) t

theorem edge_scalarJson? (s : Scope) (decl : EdgeDecl) :
    edge Toml.scalarJson? s decl = (Edge.ofDecl s decl).mapError .refused := by
  unfold edge Edge.ofDecl
  simp only [Except.mapError_bind, conditionOf_scalarJson?, Except.mapError_refused]
  rfl

theorem rule_scalarJson? (s : Scope) (decl : FailureDecl) :
    rule Toml.scalarJson? s decl = (FailureRule.ofDecl s decl).mapError .refused := by
  unfold rule FailureRule.ofDecl
  cases decl.nodes.isEmpty with
  | true => rfl
  | false =>
    simp only [Bool.false_eq_true, if_false, Except.mapError_bind, conditionOf_scalarJson?, Except.mapError_refused]
    rfl

theorem sampling_scalarJson? (registry : Registry) (decl : Option SamplingDecl) :
    sampling Toml.scalarJson? registry decl = (Sampling.ofDecl registry decl).mapError .refused := by
  unfold sampling Sampling.ofDecl
  cases decl with
  | none => rfl
  | some decl =>
    simp only
    cases registry.strategy? ⟨decl.moduleName.getD Strategies.moduleName, decl.name⟩ with
    | none => rfl
    | some strategy =>
      simp only [Except.mapError_bind, Toml.convertFields?_scalarJson?]
      rfl

theorem flow_scalarJson? (s : Scope) (d : FlowDefinition) :
    flow Toml.scalarJson? s d = (Flow.ofDefinition s d).mapError .refused := by
  have hedge : edge Toml.scalarJson? s = fun decl => (Edge.ofDecl s decl).mapError .refused :=
    funext (edge_scalarJson? s)
  have hrule : rule Toml.scalarJson? s = fun decl => (FailureRule.ofDecl s decl).mapError .refused :=
    funext (rule_scalarJson? s)
  unfold flow Flow.ofDefinition
  simp only [Logged.mapError_bind, hedge, hrule, Logged.mapError_readAll, sampling_scalarJson?, Except.mapError_refused]
  rfl

theorem namedFlow_scalarJson? (s : Scope) (d : FlowDefinition) :
    namedFlow Toml.scalarJson? s d = (System.buildFlow s d).mapError .refused := by
  unfold namedFlow System.buildFlow
  simp only [Logged.mapError_bind, flow_scalarJson?, Logged.mapError_refused]
  rfl

theorem namedStorage_scalarJson? (decl : StorageDecl) :
    namedStorage Toml.scalarJson? decl = (System.buildStorage decl).mapError .refused := by
  unfold namedStorage System.buildStorage Storage.ofDecl
  rw [Toml.convert?_scalarJson?]
  cases CacheSpec.ofOptional decl.cache <;> rfl

theorem system_scalarJson? (config : Configuration) (registry : Registry) :
    system Toml.scalarJson? config registry = (System.build config registry).mapError .refused := by
  have hstorage : namedStorage Toml.scalarJson? = fun decl => (System.buildStorage decl).mapError .refused :=
    funext namedStorage_scalarJson?
  -- a definition that gives no flow is described by the message of the same error
  have hflows : ∀ s ds, Logged.attemptAll (namedFlow Toml.scalarJson? s) invalidDefinition ds =
      (Logged.attemptAll (System.buildFlow s) System.invalidDefinition ds).mapError .refused := by
    intro s ds
    rw [funext (namedFlow_scalarJson? s)]
    exact (Logged.mapError_attemptAll _ _ (fun _ _ => rfl) ds).symm
  unfold system System.build
  simp only [Logged.mapError_bind, hstorage, hflows, ← Except.mapError_mapM]
  rfl

theorem table_eq (digest : String → String) (s : System) :
    table digest s = (DispatchTable.ofSystem digest s).mapError .refused := by
  unfold table DispatchTable.ofSystem
  simp only [Logged.mapError_bind, fingerprint, Json.write?_serial]
  rfl

/-- **The compilation in use** is the one whose conversions are those in use. -/
theorem compile_scalarJson? (digest : String → String) (config : Configuration) (registry : Registry) :
    compile Toml.scalarJson? digest config registry = compileWith digest config registry := by
  have htable : table digest = fun s => (DispatchTable.ofSystem digest s).mapError .refused := funext (table_eq digest)
  unfold compile compileWith
  rw [system_scalarJson?, htable]
  show ((System.build config registry).mapError .refused >>= fun s =>
    (DispatchTable.ofSystem digest s).mapError .refused).mapError Fault.error = _
  rw [← Logged.mapError_bind, Logged.mapError_mapError]
  rfl

end Fallible

end TaskFlow
