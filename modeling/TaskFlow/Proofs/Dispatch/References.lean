import TaskFlow.Proofs.Dispatch.Table
import TaskFlow.Proofs.System.References

/-!
# References inside a dispatch table

- `DispatchTable.Closed`: every name in a table is that of a task, flow or storage of the table, whichever it should be,
  every number is that of a vertex or an edge, and no name is used twice; `FlowTable.ClosedIn` and
  `SelectiveEntry.ClosedIn` say so for a flow and for a selective run;
- `FlowTable.exists_rule_of_traversed`, `FlowTable.exists_rule_of_fallback`: the failure graph of a flow's table has
  nothing that its rules do not have;
- `FlowTable.closedIn_of_ofFlow`: the table of a flow is closed in that of its system;
- `compileWith_closed`: a compiled table is closed.
-/

namespace TaskFlow

/-- A task or a flow of a table. -/
def DispatchTable.HasNode (t : DispatchTable) (x : String) : Prop :=
  t.tasks.contains x = true ∨ t.flows.contains x = true

/-- A selective run asks for nodes, names flows, and has a plan for flows with edges of theirs. -/
structure SelectiveEntry.ClosedIn (t : DispatchTable) (sel : SelectiveEntry) : Prop where
  tasks : ∀ x ∈ sel.tasks, t.HasNode x
  runSubsequent : ∀ x ∈ sel.runSubsequent.named, t.flows.contains x = true
  plan : ∀ x indices, sel.plan.get? x = some indices →
    ∃ ft, t.flows.get? x = some ft ∧ ∀ i ∈ indices, i < ft.edges.length

/-- Whatever a flow refers to is there: its nodes in the table, its vertices in its own failure graph. -/
structure FlowTable.ClosedIn (t : DispatchTable) (ft : FlowTable) : Prop where
  sources : ∀ e ∈ ft.edges, ∀ x ∈ e.sources, t.HasNode x
  targets : ∀ e ∈ ft.edges, ∀ x ∈ e.targets, t.HasNode x
  selective : ∀ e ∈ ft.edges, ∀ sel, e.selective = some sel → sel.ClosedIn t
  traversed : ∀ v ∈ ft.failures.nodes, ∀ x ∈ v.traversed, t.HasNode x
  links : ∀ v ∈ ft.failures.nodes, ∀ x id, v.next.get? x = some id → t.HasNode x ∧ id < ft.failures.size
  fallbacks : ∀ v ∈ ft.failures.nodes, ∀ entry ∈ v.fallbacks, ∀ x ∈ entry.fallback.started, t.HasNode x
  starting : ∀ x id, ft.failures.starting.get? x = some id → t.HasNode x ∧ id < ft.failures.size
  nowait : ∀ x ∈ ft.nowait, t.HasNode x
  eagerFailures : ∀ x ∈ ft.eagerFailures, t.HasNode x
  propagation : ∀ flag ∈ ft.propagation.entries, ∀ x ∈ flag.2.named, t.flows.contains x = true

/-- Whatever a table refers to is there, under a name that nothing else has. -/
structure DispatchTable.Closed (t : DispatchTable) : Prop where
  flows : ∀ name ft, t.flows.get? name = some ft → ft.ClosedIn t
  storages : ∀ name task storage, t.tasks.get? name = some task → task.storage = some storage →
    t.storages.contains storage = true
  tasks_flows : t.tasks.keys.Disjoint t.flows.keys
  tasks_storages : t.tasks.keys.Disjoint t.storages.keys
  flows_storages : t.flows.keys.Disjoint t.storages.keys

section Table

variable {digest : String → String} {config : Configuration} {registry : Registry} {s : System} {t : DispatchTable}
  {name x : String} {f : Flow} {ft : FlowTable}

theorem DispatchTable.hasNode_of_kind? (hbuilt : s.BuiltFrom config registry)
    (ht : (DispatchTable.ofSystem digest s).result = .ok t) (hx : (s.kind? x).isSome) : t.HasNode x := by
  unfold DispatchTable.HasNode
  rw [DispatchTable.contains_tasks_of_ofSystem hbuilt.name_of_task ht,
    DispatchTable.contains_flows_of_ofSystem (fun _ _ => hbuilt.name_eq) ht]
  exact System.isSome_kind?_iff.1 hx

theorem SelectiveEntry.closedIn_of_ofEdge (hconfig : config.Accepted) (hbuilt : s.BuiltFrom config registry)
    (ht : (DispatchTable.ofSystem digest s).result = .ok t) (hf : s.flows.get? name = some f) {e : Edge}
    (he : e ∈ f.edges) {entry : EdgeEntry} (hentry : (EdgeEntry.ofEdge s e).result = .ok entry) {sel : SelectiveEntry}
    (hsel : entry.selective = some sel) : sel.ClosedIn t := by
  obtain ⟨hrun, hplan⟩ := EdgeEntry.exists_plan_of_ofEdge hentry hsel
  have hnames : ∀ name f, s.flows.get? name = some f → f.name = name := fun _ _ => hbuilt.name_eq
  obtain ⟨target, htarget, hruns⟩ := hbuilt.exists_selectiveTarget hf he hrun
  refine ⟨fun x hx => ?_, fun x hx => ?_, fun x indices hx => ?_⟩
  · exact DispatchTable.hasNode_of_kind? hbuilt ht (hbuilt.kind?_of_runsTask hconfig htarget (hruns x hx))
  · rw [DispatchTable.contains_flows_of_ofSystem hnames ht]
    exact System.contains_flows_of_kind? (hbuilt.kind?_of_mem_runSubsequent hf he hrun hx)
  · obtain ⟨g, hg, hindices⟩ := System.exists_flow_of_selectivePlan hnames hplan hx
    obtain ⟨gt, hgt, hread⟩ := DispatchTable.flow_of_ofSystem hnames ht hg
    rw [(FlowTable.edges_of_ofFlow hread).length_eq] at hindices
    exact ⟨gt, hgt, hindices⟩

theorem FlowTable.exists_rule_of_traversed (hft : (FlowTable.ofFlow s f).result = .ok ft) {v : FailureNode}
    (hv : v ∈ ft.failures.nodes) (hx : x ∈ v.traversed) : ∃ r ∈ f.rules, x ∈ r.nodes := by
  rw [FlowTable.failures_of_ofFlow hft] at hv
  obtain ⟨r, hr, hsub⟩ := FailureGraph.exists_rule_of_node hv
  exact ⟨r, hr, hsub x hx⟩

theorem FlowTable.exists_rule_of_fallback (hbuilt : s.BuiltFrom config registry) (hf : s.flows.get? name = some f)
    (hft : (FlowTable.ofFlow s f).result = .ok ft) {v : FailureNode} (hv : v ∈ ft.failures.nodes)
    {entry : FallbackEntry} (hentry : entry ∈ v.fallbacks) : ∃ r ∈ f.rules, entry = .ofRule r := by
  rw [FlowTable.failures_of_ofFlow hft] at hv
  exact FailureGraph.exists_rule_of_mem_fallbacks (fun r hr => hbuilt.nodes_of_rule hf hr) hv hentry

/-- The table of a flow is closed in that of its system. -/
theorem FlowTable.closedIn_of_ofFlow (hconfig : config.Accepted) (hbuilt : s.BuiltFrom config registry)
    (ht : (DispatchTable.ofSystem digest s).result = .ok t) (hf : s.flows.get? name = some f)
    (hft : (FlowTable.ofFlow s f).result = .ok ft) : ft.ClosedIn t := by
  have hnode : ∀ x, (s.kind? x).isSome → t.HasNode x := fun x => DispatchTable.hasNode_of_kind? hbuilt ht
  have hrule : ∀ x, (∃ r ∈ f.rules, x ∈ r.nodes) → t.HasNode x := by
    rintro x ⟨r, hr, hx⟩
    exact hnode x (hbuilt.kind?_of_mem_rule hconfig hf hr hx)
  have hfailures : ft.failures = .ofRules f.rules := FlowTable.failures_of_ofFlow hft
  obtain ⟨hnowait, heager, hflags, -⟩ := FlowTable.flags_of_ofFlow hft
  obtain ⟨-, -, -, hnowaitChecked, heagerChecked, -, hpropagation, -⟩ :=
    System.checkFlow_eq_ok_iff.1 (hbuilt.checked name f hf)
  constructor
  case sources =>
    intro entry hentry x hx
    obtain ⟨e, he, hread⟩ := FlowTable.exists_edge_of_ofFlow hft hentry
    rw [EdgeEntry.sources_of_ofEdge hread] at hx
    exact hnode x (hbuilt.kind?_of_mem_edge hconfig hf he (List.mem_append_left _ hx))
  case targets =>
    intro entry hentry x hx
    obtain ⟨e, he, hread⟩ := FlowTable.exists_edge_of_ofFlow hft hentry
    rw [EdgeEntry.targets_of_ofEdge hread] at hx
    exact hnode x (hbuilt.kind?_of_mem_edge hconfig hf he (List.mem_append_right _ hx))
  case selective =>
    intro entry hentry sel hsel
    obtain ⟨e, he, hread⟩ := FlowTable.exists_edge_of_ofFlow hft hentry
    exact SelectiveEntry.closedIn_of_ofEdge hconfig hbuilt ht hf he hread hsel
  case traversed =>
    intro v hv x hx
    exact hrule x (FlowTable.exists_rule_of_traversed hft hv hx)
  case links =>
    intro v hv x id hid
    rw [hfailures] at hv ⊢
    obtain ⟨hx, hlt⟩ := FailureGraph.exists_rule_of_next hv hid
    exact ⟨hrule x hx, hlt⟩
  case fallbacks =>
    intro v hv entry hentry x hx
    obtain ⟨r, hr, rfl⟩ := FlowTable.exists_rule_of_fallback hbuilt hf hft hv hentry
    exact hnode x (hbuilt.kind?_of_mem_fallback hconfig hf hr hx)
  case starting =>
    intro x id hid
    rw [hfailures] at hid ⊢
    obtain ⟨hx, hlt⟩ := FailureGraph.exists_rule_of_starting hid
    exact ⟨hrule x hx, hlt⟩
  case nowait =>
    intro x hx
    rw [hnowait] at hx
    obtain ⟨hstarted, -⟩ := Flow.checkNowait_eq_ok_iff.1 hnowaitChecked x hx
    exact hnode x (hbuilt.kind?_of_mem_destinationNodes hconfig hf hstarted)
  case eagerFailures =>
    intro x hx
    rw [heager] at hx
    obtain ⟨hused, -⟩ := Flow.checkEagerFailures_eq_ok_iff.1 heagerChecked x hx
    exact hnode x (hbuilt.kind?_of_mem_usedNodes hconfig hf hused)
  case propagation =>
    intro flag hflag x hx
    rw [hflags] at hflag
    obtain ⟨hnamed, -⟩ := System.checkPropagation_eq_ok_iff.1 hpropagation
    rw [DispatchTable.contains_flows_of_ofSystem (fun _ _ => hbuilt.name_eq) ht]
    exact (System.mem_subFlows_iff.1 (hnamed flag hflag x hx)).2

end Table

/-- **A compiled table is closed under references**: every node, flow and storage that it names is in it, every edge and
every vertex that it numbers exists, and tasks, flows and storages share no name. -/
theorem compileWith_closed {digest : String → String} {docs : Documents} {config : Configuration} {registry : Registry}
    {t : DispatchTable} (hconfig : docs.check.result = .ok config)
    (ht : (compileWith digest config registry).result = .ok t) : t.Closed := by
  have haccepted := Documents.accepted_of_check hconfig
  obtain ⟨s, hs, ht⟩ := compileWith_eq_ok_iff.1 ht
  have hbuilt := System.builtFrom_of_build haccepted hs
  have hnames : ∀ name f, s.flows.get? name = some f → f.name = name := fun _ _ => hbuilt.name_eq
  have htask : ∀ x ∈ t.tasks.keys, x ∈ config.nodes.tasks.map (·.name) := by
    intro x hx
    rw [Dict.mem_keys_iff_contains, DispatchTable.contains_tasks_of_ofSystem hbuilt.name_of_task ht] at hx
    exact System.task_declared_of_build hs hx
  have hflow : ∀ x ∈ t.flows.keys, x ∈ config.nodes.flows := by
    intro x hx
    rw [Dict.mem_keys_iff_contains, DispatchTable.contains_flows_of_ofSystem hnames ht] at hx
    exact (hbuilt.contains_flows_iff haccepted).1 hx
  have hstorage : ∀ x ∈ t.storages.keys, x ∈ config.nodes.storages.map (·.name) := by
    intro x hx
    rw [Dict.mem_keys_iff_contains, DispatchTable.contains_storages_of_ofSystem hbuilt.name_of_storage ht] at hx
    exact System.storage_declared_of_build hs hx
  have hdistinct := List.disjoint_of_nodup_append haccepted.nodup_append
  constructor
  case flows =>
    intro name ft hft
    obtain ⟨f, hf, hread⟩ := DispatchTable.exists_flow_of_ofSystem hnames ht hft
    exact FlowTable.closedIn_of_ofFlow haccepted hbuilt ht hf hread
  case storages =>
    intro name task storage htask hsome
    rw [DispatchTable.get?_tasks_of_ofSystem hbuilt.name_of_task ht, Option.map_eq_some_iff] at htask
    obtain ⟨task, hbuiltTask, rfl⟩ := htask
    rw [DispatchTable.contains_storages_of_ofSystem hbuilt.name_of_storage ht]
    exact hbuilt.storage_of_task name task storage hbuiltTask hsome
  case tasks_flows =>
    intro x hx hy
    exact List.disjoint_of_nodup_append (List.nodup_append.1 haccepted.nodup_append).1 (htask x hx) (hflow x hy)
  case tasks_storages =>
    intro x hx hy
    exact hdistinct (List.mem_append_left _ (htask x hx)) (hstorage x hy)
  case flows_storages =>
    intro x hx hy
    exact hdistinct (List.mem_append_right _ (hflow x hx)) (hstorage x hy)

/-- A flow with a selective run, a failure rule for two nodes, and every list of nodes in use. -/
theorem compileWith_closed_selective :
    let docs : Documents := {
      nodes := {
        flows := ["f", "g"]
        tasks := [{ name := "a", moduleName := "app", storage := some "s" }, { name := "b", moduleName := "app" },
          { name := "c", moduleName := "app" }]
        storages := [{ name := "s", moduleName := "app" }] }
      flows := [⟨[{
        name := "f"
        edges := [
          { sources := some [], targets := some ["a", "c"] },
          { sources := some ["a"]
            targets := some ["g"]
            selective := some { tasks := ["b"], runSubsequent := .nodes (.ofList ["g"]) } }]
        failures := [{ nodes := ["a", "g"], fallback := .nodes ["b"] }]
        nowait := ["c"]
        eagerFailures := ["b"]
        propagation := { finished := .nodes (.ofList ["g"]) } }, {
        name := "g"
        edges := [{ sources := some [], targets := some ["b"] }] }]⟩] }
    let config : Configuration := ⟨docs.nodes, docs.definitions⟩
    docs.check.result = .ok config ∧ ∃ t, (compileWith (fun _ => "") config .builtin).result = .ok t ∧ t.Closed ∧
      t.HasNode "c" ∧ t.flows.contains "g" = true ∧ t.storages.contains "s" = true := by
  intro docs config
  have hconfig : docs.check.result = .ok config := rfl
  have hcompiles : ((compileWith (fun _ => "") config .builtin).result.toOption.any fun t =>
      ((t.tasks.get? "a").any fun task => task.storage == some "s") && (t.flows.get? "f").any fun ft =>
        ft.nowait == .ofList ["c"] && ft.propagation.finished == .nodes (.ofList ["g"])) = true := by decide
  obtain ⟨t, ht, h⟩ := Except.toOption_any_iff.1 hcompiles
  simp only [Option.any_eq_true, Bool.and_eq_true, beq_iff_eq] at h
  obtain ⟨⟨task, htask, hstorage⟩, ft, hft, hnowait, hfinished⟩ := h
  have hclosed := compileWith_closed hconfig ht
  have hflow := hclosed.flows "f" ft hft
  refine ⟨hconfig, t, ht, hclosed, ?_, ?_, hclosed.storages "a" task "s" htask hstorage⟩
  · exact hflow.nowait "c" (by rw [hnowait]; decide)
  · refine hflow.propagation ("propagate_finished", ft.propagation.finished) (by simp [PropagationFlags.entries]) "g" ?_
    rw [hfinished]
    decide

end TaskFlow
