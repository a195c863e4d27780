import TaskFlow.Proofs.Condition.Calls
import TaskFlow.Proofs.Dispatch.Table
import TaskFlow.Proofs.Failure.Graph
import TaskFlow.Proofs.Failure.Rule
import TaskFlow.Proofs.System.References

/-!
# Messages in a dispatch table

- `Call.BoundIn`: a call is bound to a source of its edge, a task that writes its results to a storage of the table;
- `BuiltFrom.requiresMessage_of_rule`: the conditions of failure rules take no messages;
- `compileWith_binds_messages`: in a compiled table every call that takes a message is bound, and there is none on
  starting edges and in failure graphs.
-/

namespace TaskFlow

/-- A call is bound to one of the sources, a task that writes its results to a storage of the table. -/
def Call.BoundIn (table : DispatchTable) (sources : List String) (c : Call) : Prop :=
  ∃ node task storage, c.node = some node ∧ node ∈ sources ∧ table.tasks.get? node = some task ∧
    task.storageReadonly = false ∧ task.storage = some storage ∧ table.storages.contains storage = true

namespace System.BuiltFrom

variable {config : Configuration} {registry : Registry} {s : System} {name : String} {f : Flow}

/-- No failure rule looks at results. -/
theorem requiresMessage_of_rule (h : s.BuiltFrom config registry) (hf : s.flows.get? name = some f) {r : FailureRule}
    (hr : r ∈ f.rules) : ∀ c ∈ r.condition.calls, c.requiresMessage = false := by
  obtain ⟨_, -, -, decl, -, hread⟩ := h.exists_failureDecl hf hr
  obtain ⟨-, -, -, -, -, -, -, hcheck⟩ := FailureRule.ofDecl_eq_ok_iff.1 hread
  exact Condition.requiresMessage_of_check hcheck

/-- A message on an edge is the result of a source that a task writes to a storage. -/
theorem exists_task_of_requiresMessage (h : s.BuiltFrom config registry) (hf : s.flows.get? name = some f) {e : Edge}
    (he : e ∈ f.edges) {c : Call} (hc : c ∈ e.condition.calls) (hmessage : c.requiresMessage = true) :
    ∃ node t storage, c.node = some node ∧ node ∈ e.sources ∧ s.tasks.get? node = some t ∧
      t.storageReadonly = false ∧ t.storage = some storage ∧ s.storages.contains storage = true := by
  obtain ⟨_, -, -, decl, -, hread⟩ := h.exists_edgeDecl hf he
  obtain ⟨-, -, hcheck, -, -⟩ := Edge.ofDecl_eq_ok_iff.1 hread
  obtain ⟨-, node, t, storage, hnode, hsource, ht, hstorage, hwritable⟩ :=
    Call.check_eq_ok_iff.1 (Condition.check_eq_ok_iff.1 hcheck c hc) hmessage
  exact ⟨node, t, storage, hnode, hsource, ht, hwritable, hstorage, h.storage_of_task node t storage ht hstorage⟩

end System.BuiltFrom

/-- **Every message of a compiled table can be looked up**: a call on an edge that takes a message is bound to a source
of the edge, a task that writes its results to a storage of the table. Starting edges and failure graphs, which have no
results to look at, have no such call. -/
theorem compileWith_binds_messages {digest : String → String} {docs : Documents} {config : Configuration}
    {registry : Registry} {table : DispatchTable} (hconfig : docs.check.result = .ok config)
    (htable : (compileWith digest config registry).result = .ok table) {name : String} {ft : FlowTable}
    (hft : table.flows.get? name = some ft) :
    (∀ e ∈ ft.edges, ∀ c ∈ e.condition.calls, c.requiresMessage = true → c.BoundIn table e.sources) ∧
    (∀ e ∈ ft.edges, e.sources = [] → ∀ c ∈ e.condition.calls, c.requiresMessage = false) ∧
    ∀ v ∈ ft.failures.nodes, ∀ entry ∈ v.fallbacks, ∀ c ∈ entry.condition.calls, c.requiresMessage = false := by
  obtain ⟨s, hs, htable⟩ := compileWith_eq_ok_iff.1 htable
  have hbuilt := System.builtFrom_of_build (Documents.accepted_of_check hconfig) hs
  obtain ⟨f, hf, hflow⟩ := DispatchTable.exists_flow_of_ofSystem (fun _ _ => hbuilt.name_eq) htable hft
  have hbound : ∀ e ∈ ft.edges, ∀ c ∈ e.condition.calls, c.requiresMessage = true → c.BoundIn table e.sources := by
    intro entry hentry c hc hmessage
    obtain ⟨e, he, hkept⟩ := forall₂_of_mem (FlowTable.edges_of_ofFlow hflow).flip hentry
    rw [EdgeEntry.condition_of_ofEdge hkept, Condition.calls_guard] at hc
    obtain ⟨node, t, storage, hnode, hsource, ht, hwritable, hstorage, hcontains⟩ :=
      hbuilt.exists_task_of_requiresMessage hf he hc hmessage
    refine ⟨node, .ofTask s.settings t, storage, hnode, EdgeEntry.sources_of_ofEdge hkept ▸ hsource, ?_, hwritable,
      hstorage, ?_⟩
    · rw [DispatchTable.get?_tasks_of_ofSystem hbuilt.name_of_task htable, ht]
      rfl
    · rw [Dict.contains, DispatchTable.get?_storages_of_ofSystem hbuilt.name_of_storage htable, Option.isSome_map]
      exact hcontains
  refine ⟨hbound, fun entry hentry hstart c hc => ?_, fun v hv entry hentry c hc => ?_⟩
  · rw [Bool.eq_false_iff]
    intro hmessage
    obtain ⟨node, _, _, -, hsource, -⟩ := hbound entry hentry c hc hmessage
    rw [hstart] at hsource
    cases hsource
  · rw [FlowTable.failures_of_ofFlow hflow] at hv
    obtain ⟨r, hr, rfl⟩ :=
      FailureGraph.exists_rule_of_mem_fallbacks (fun r hr => hbuilt.nodes_of_rule hf hr) hv hentry
    rw [FallbackEntry.ofRule, Condition.calls_guard] at hc
    exact hbuilt.requiresMessage_of_rule hf hr c hc

/-- A call below a negation, without a node of its own, next to a failure rule with a condition. -/
theorem compileWith_binds_messages_negated :
    let docs : Documents := {
      nodes := {
        flows := ["f"]
        tasks := [{ name := "a", moduleName := "app", storage := some "s" }, { name := "b", moduleName := "app" }]
        storages := [{ name := "s", moduleName := "app" }] }
      flows := [⟨[{
        name := "f"
        edges := [{ sources := some [], targets := some ["a"] }, {
          sources := some ["a"]
          targets := some ["b"]
          condition := some (.table [("not", .table [
            ("name", .str "fieldExist"), ("args", .table [("key", .str "id")])])]) }]
        failures := [{
          nodes := ["a"]
          fallback := .nodes ["b"]
          condition := some (.table [("name", .str "argsIsNone")]) }] }]⟩] }
    let config : Configuration := ⟨docs.nodes, docs.definitions⟩
    docs.check.result = .ok config ∧ ∃ table, (compileWith (fun _ => "") config .builtin).result = .ok table ∧
      (∃ c : Call, c.requiresMessage = true ∧ c.BoundIn table ["a"]) ∧
      ∃ c : Call, c.function.name = "argsIsNone" ∧ c.requiresMessage = false := by
  intro docs config
  have hconfig : docs.check.result = .ok config := rfl
  have hcompiles : ((compileWith (fun _ => "") config .builtin).result.toOption.any fun table =>
      (table.flows.get? "f").any fun ft =>
        (ft.edges.any fun e => e.sources == ["a"] && e.condition.calls.any (·.requiresMessage)) &&
        ft.failures.nodes.any fun v => v.fallbacks.any fun entry =>
          entry.condition.calls.any (·.function.name == "argsIsNone")) = true := by decide
  obtain ⟨table, htable, h⟩ := Except.toOption_any_iff.1 hcompiles
  simp only [Option.any_eq_true, Bool.and_eq_true, List.any_eq_true, beq_iff_eq] at h
  obtain ⟨ft, hft, ⟨e, he, hsources, c, hc, hmessage⟩, v, hv, entry, hentry, c', hc', hname⟩ := h
  obtain ⟨hbound, -, hfailures⟩ := compileWith_binds_messages hconfig htable hft
  have hc_bound : c.BoundIn table e.sources := hbound e he c hc hmessage
  rw [hsources] at hc_bound
  exact ⟨hconfig, table, htable, ⟨c, hmessage, hc_bound⟩, c', hname, hfailures v hv entry hentry c' hc'⟩

end TaskFlow
