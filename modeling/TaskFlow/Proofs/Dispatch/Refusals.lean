import TaskFlow.Proofs.Dispatch.Implementations

/-!
# Compilation fails by refusal only

- `Fallible.refuses_condition`, `Fallible.refuses_flow` and the like: where scalars are converted, a step fails only
  because what it is given is refused;
- `Fallible.refuses_table`: a table is always written;
- `Fallible.compile_fails_by_refusal`: so an error of the compilation is one of the configuration, and no
  implementation of a predicate or a strategy has a part in it.
-/

namespace TaskFlow

namespace Fallible

variable {scalar : Toml → Option Json}

/-! ## Conditions -/

mutual

/-- A condition adds no failure to those of its calls. -/
theorem refuses_condition {leaf : List (String × Toml) → Except (Fault ConditionError) Call}
    (h : ∀ fields, Refuses (leaf fields)) : ∀ t : Toml, Refuses (condition leaf t)
  | .table [] => .error _
  | .table [(key, inner)] => by
    have hinner := refuses_condition h inner
    unfold condition
    cases Combinator.find? [(key, inner)] with
    | none => exact (h _).map Condition.call
    | some c =>
      -- no list is negated, and a group is a list with a member at least
      cases c with
      | not =>
        cases inner with
        | arr items => exact .error _
        | _ => exact hinner.map Condition.negate
      | and | or =>
        cases inner with
        | arr items =>
          cases items with
          | nil => exact .error _
          | cons item items => exact (refuses_conditions h (item :: items)).map _
        | _ => exact .error _
  | .table (f :: g :: fields) => by
    unfold condition
    cases Combinator.find? (f :: g :: fields) with
    | none => exact (h _).map Condition.call
    | some c => exact .error _
  | .void | .str _ | .int _ | .real _ | .bool _ | .datetime _ | .arr _ => .error _

theorem refuses_conditions {leaf : List (String × Toml) → Except (Fault ConditionError) Call}
    (h : ∀ fields, Refuses (leaf fields)) : ∀ ts : List Toml, Refuses (conditions leaf ts)
  | [] => .ok []
  | t :: ts => by
    rw [conditions]
    exact (refuses_condition h t).bind fun c => (refuses_conditions h ts).bind fun cs => .ok _

end

/-! ## Parts of a configuration -/

section

variable (h : Toml.ConvertsScalars scalar)

include h

theorem refuses_callArgs (f : FunctionRef) (p : PredicateSignature) (fields : List (String × Toml)) :
    Refuses (callArgs scalar f p fields) := by
  have hrest : ∀ args : Dict Json, Refuses
      (((matchArguments p.explicitParams args.keys).mapError (.argumentMismatch f)).mapError .refused >>= fun _ =>
        (.ok args : Except (Fault ConditionError) (Dict Json))) :=
    fun args => (Refuses.mapError _).bind fun _ => .ok args
  unfold callArgs
  cases fields.lookup "args" with
  | none => exact hrest Dict.empty
  | some t =>
    cases t with
    | table args =>
      exact ((Refuses.converted (Toml.isSome_convertFields? h args)).map Dict.ofList).bind hrest
    | _ => exact .error _

theorem refuses_call (s : Scope) (sources : List String) (fields : List (String × Toml)) :
    Refuses (call scalar s sources fields) := by
  unfold call
  cases fields.find? fun e => !Call.keys.contains e.1 with
  | some e => exact .error _
  | none =>
    refine (Refuses.mapError _).bind fun f => ?_
    cases s.registry.predicate? f with
    | none => exact .error _
    | some p =>
      refine (refuses_callArgs h f p fields).bind fun args => ?_
      exact (Refuses.mapError _).bind fun node => (Refuses.mapError _).bind fun node => .ok _

theorem refuses_conditionOf (s : Scope) (sources : List String) (t : Option Toml) :
    Refuses (conditionOf scalar s sources t) := by
  cases t with
  | none => exact .ok _
  | some t => exact refuses_condition (refuses_call h s sources) t

theorem refuses_edge (s : Scope) (decl : EdgeDecl) : Refuses (edge scalar s decl) := by
  refine (Refuses.mapError _).bind fun ends => ?_
  refine ((refuses_conditionOf h s ends.1 decl.condition).rename EdgeError.condition).bind fun condition => ?_
  refine (Refuses.mapError _).bind fun _ => ?_
  exact (Refuses.mapError _).bind fun foreach => (Refuses.mapError _).bind fun selective => .ok _

theorem refuses_rule (s : Scope) (decl : FailureDecl) : Refuses (rule scalar s decl) := by
  unfold rule
  cases decl.nodes.isEmpty with
  | true => exact .error _
  | false =>
    refine (Refuses.mapError _).bind fun _ => (Refuses.mapError _).bind fun fallback => ?_
    refine (Refuses.mapError _).bind fun _ => ?_
    refine ((refuses_conditionOf h s decl.nodes decl.condition).rename RuleError.condition).bind fun condition => ?_
    exact (Refuses.mapError _).bind fun _ => .ok _

theorem refuses_sampling (registry : Registry) (decl : Option SamplingDecl) :
    Refuses (sampling scalar registry decl) := by
  unfold sampling
  cases decl with
  | none => exact .ok _
  | some decl =>
    simp only
    cases registry.strategy? ⟨decl.moduleName.getD Strategies.moduleName, decl.name⟩ with
    | none => exact .error _
    | some strategy =>
      refine (Refuses.mapError _).bind fun _ => ?_
      exact (Refuses.converted (Toml.isSome_convertFields? h decl.args)).bind fun args => .ok _

theorem refuses_flow (s : Scope) (d : FlowDefinition) : Refuses (flow scalar s d).result := by
  refine .logged_bind (.readAll (refuses_edge h s) _ _) fun edges => ?_
  refine .logged_bind (.readAll (refuses_rule h s) _ _) fun rules => ?_
  refine .logged_bind (.mapError _) fun cache => .logged_bind (.mapError _) fun throttling => ?_
  -- what is reported in between cannot fail
  refine .logged_bind (.ok ()) fun _ => .logged_bind (.ok ()) fun _ => .logged_bind (.ok ()) fun _ => ?_
  refine .logged_bind ((refuses_sampling h s.registry d.sampling).rename _) fun sampling => ?_
  exact .logged_bind (.mapError _) fun _ => .logged_bind (.ok ()) fun _ => .ok _

theorem refuses_namedFlow (s : Scope) (d : FlowDefinition) : Refuses (namedFlow scalar s d).result :=
  .logged_bind ((refuses_flow h s d).rename _) fun flow => .ok (flow.name, flow)

theorem refuses_namedStorage (decl : StorageDecl) : Refuses (namedStorage scalar decl) := by
  refine (Refuses.mapError _).bind fun cache => ?_
  exact (Refuses.converted (Toml.isSome_convert? h (.table decl.configuration))).bind fun configuration => .ok _

/-! ## The whole -/

theorem refuses_system (config : Configuration) (registry : Registry) :
    Refuses (system scalar config registry).result := by
  refine .logged_bind (.mapError _) fun _ => ?_
  refine .logged_bind (.mapM (refuses_namedStorage h) _) fun storages => ?_
  refine .logged_bind (.mapError _) fun tasks => ?_
  refine .logged_bind (.attemptAll (refuses_namedFlow h _) _) fun flows => ?_
  exact .logged_bind (.mapError _) fun _ => .logged_bind (.ok ()) fun _ => .logged_bind (.ok ()) fun _ => .ok _

end

theorem refuses_table (digest : String → String) (s : System) : Refuses (table digest s).result := by
  refine .logged_bind (.mapError _) fun flows => ?_
  refine .logged_bind (.map (.converted ?_) digest) fun fingerprint => .logged_bind (.ok ()) fun _ => .ok _
  rw [Json.write?_serial]
  rfl

/-- **Compilation fails by refusal only.** Let the conversion of scalars never fail. Then values are converted
however nested and every table is written; an error of the compilation is one of the configuration; registries that
differ in the implementations of their functions give the same; and the compilation in use is a case of this. -/
theorem compile_fails_by_refusal (h : Toml.ConvertsScalars scalar) (digest : String → String) (config : Configuration)
    (registry : Registry) :
    (∀ t : Toml, (Toml.convert? scalar t).isSome = true) ∧
    (∀ t : DispatchTable, t.toJson.serial.write? = some t.toJson.compact) ∧
    (∀ e, (compile scalar digest config registry).result = .error e → ∃ c, e = .config c) ∧
    (∀ registry' : Registry, registry'.interface = registry.interface →
      compile scalar digest config registry' = compile scalar digest config registry) ∧
    compile Toml.scalarJson? digest config registry = compileWith digest config registry := by
  refine ⟨Toml.isSome_convert? h, fun t => t.toJson.write?_serial, fun e he => ?_,
    fun registry' hsame => compile_congr scalar hsame digest config, compile_scalarJson? digest config registry⟩
  have hrefuses : Refuses ((system scalar config registry).bind (table digest)).result :=
    .logged_bind (refuses_system h config registry) (refuses_table digest)
  have hrun : ((system scalar config registry).bind (table digest)).result.mapError Fault.error = .error e := he
  -- the error is the name of a fault, and the fault a refusal
  generalize ((system scalar config registry).bind (table digest)).result = run at hrefuses hrun
  cases run with
  | ok t => cases hrun
  | error fault =>
    obtain ⟨c, rfl⟩ := hrefuses fault rfl
    cases hrun
    exact ⟨c, rfl⟩

/-- A storage with a nested configuration, a condition with nested arguments, and then an edge into the unknown. -/
def intoUnknown : Configuration :=
  let nested : Toml := .arr [.arr [.int 1], .table [("deep", .arr [.bool true])]]
  let storage : StorageDecl := { name := "s", moduleName := "app", configuration := [("hosts", nested)] }
  let condition : Toml :=
    .table [("args", .table [("key", .str "k"), ("value", nested)]), ("name", .str "argsFieldEqual")]
  let f : FlowDefinition := {
    name := "f"
    edges := [
      { sources := some [], targets := some ["a"], condition := some condition },
      { sources := some ["a"], targets := some ["b"] }] }
  ⟨{ flows := ["f"], tasks := [{ name := "a", moduleName := "app" }], storages := [storage] }, [f]⟩

theorem compile_fails_by_refusal_intoUnknown :
    Toml.ConvertsScalars Toml.scalarJson? ∧
    ∃ e, (compile Toml.scalarJson? (fun _ => "") intoUnknown .builtin).result = .error e ∧ (∃ c, e = .config c) ∧
      ∀ registry : Registry, registry.interface = Registry.builtin.interface →
        (compile Toml.scalarJson? (fun _ => "") intoUnknown registry).result = .error e := by
  have hfails : (compile Toml.scalarJson? (fun _ => "") intoUnknown .builtin).result =
      .error (.config (.flow "f" (.edge (.unknownNode "b")))) := rfl
  obtain ⟨-, -, hrefused, hsame, -⟩ :=
    compile_fails_by_refusal Toml.convertsScalars_scalarJson? (fun _ => "") intoUnknown .builtin
  refine ⟨Toml.convertsScalars_scalarJson?, _, hfails, hrefused _ hfails, fun registry hregistry => ?_⟩
  rw [hsame registry hregistry]
  exact hfails

/-- Were truth values not converted, the error would be none of the configuration. -/
example : (compile (fun t => if t.asBool?.isSome then none else Toml.scalarJson? t) (fun _ => "") intoUnknown
    .builtin).result = .error .malformedTable := rfl

end Fallible

end TaskFlow
