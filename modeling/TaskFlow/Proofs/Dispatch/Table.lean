import TaskFlow.Dispatch.Compile
import TaskFlow.Proofs.Data.Dict
import TaskFlow.Proofs.Log.Logged

/-!
# Where the parts of a dispatch table come from

- `EdgeEntry.condition_of_ofEdge`, `FlowTable.edges_of_ofFlow`, `FlowTable.failures_of_ofFlow`: a flow of a table has
  the edges and the failure graph of its flow;
- `DispatchTable.ofSystem_eq_ok`: a table has the flows, tasks and storages of its system under their names, one
  lemma for each of them;
- `compileWith_eq_ok_iff`: a compiled table is the table of the system that is built.
-/

namespace TaskFlow

variable {s : System}

namespace EdgeEntry

variable {e : Edge} {entry : EdgeEntry}

theorem sources_of_ofEdge (h : (EdgeEntry.ofEdge s e).result = .ok entry) : entry.sources = e.sources := by
  obtain ⟨_, -, h⟩ := Logged.result_bind_eq_ok_iff.1 h
  cases h
  rfl

theorem targets_of_ofEdge (h : (EdgeEntry.ofEdge s e).result = .ok entry) : entry.targets = e.targets := by
  obtain ⟨_, -, h⟩ := Logged.result_bind_eq_ok_iff.1 h
  cases h
  rfl

theorem foreach_of_ofEdge (h : (EdgeEntry.ofEdge s e).result = .ok entry) : entry.foreach = e.foreach := by
  obtain ⟨_, -, h⟩ := Logged.result_bind_eq_ok_iff.1 h
  cases h
  rfl

theorem condition_of_ofEdge (h : (EdgeEntry.ofEdge s e).result = .ok entry) : entry.condition = e.condition.guard := by
  obtain ⟨_, -, h⟩ := Logged.result_bind_eq_ok_iff.1 h
  cases h
  rfl

/-- A selective run is kept with a plan that the system has for it. -/
theorem exists_plan_of_ofEdge (h : (EdgeEntry.ofEdge s e).result = .ok entry) {sel : SelectiveEntry}
    (hsel : entry.selective = some sel) :
    e.selective = some ⟨sel.tasks, sel.runSubsequent, sel.followSubflows⟩ ∧
      (s.selectivePlan (e.targets.headD "") sel.tasks sel.runSubsequent sel.followSubflows).result = .ok sel.plan := by
  obtain ⟨kept, hkept, h⟩ := Logged.result_bind_eq_ok_iff.1 h
  cases h
  cases hsel
  unfold SelectiveEntry.ofEdge at hkept
  split at hkept
  · cases hkept
  · rename_i run hrun
    obtain ⟨plan, hplan, h⟩ := Logged.result_bind_eq_ok_iff.1 hkept
    cases h
    exact ⟨hrun, hplan⟩

end EdgeEntry

namespace FlowTable

variable {f : Flow} {ft : FlowTable}

theorem edges_of_ofFlow (h : (FlowTable.ofFlow s f).result = .ok ft) :
    List.Forall₂ (fun e entry => (EdgeEntry.ofEdge s e).result = .ok entry) f.edges ft.edges := by
  obtain ⟨edges, hedges, h⟩ := Logged.result_bind_eq_ok_iff.1 h
  cases h
  exact Logged.result_forAll_eq_ok_iff.1 hedges

theorem exists_edge_of_ofFlow (h : (FlowTable.ofFlow s f).result = .ok ft) {entry : EdgeEntry}
    (hentry : entry ∈ ft.edges) : ∃ e ∈ f.edges, (EdgeEntry.ofEdge s e).result = .ok entry :=
  forall₂_of_mem (edges_of_ofFlow h).flip hentry

theorem exists_entry_of_ofFlow (h : (FlowTable.ofFlow s f).result = .ok ft) {e : Edge} (he : e ∈ f.edges) :
    ∃ entry ∈ ft.edges, (EdgeEntry.ofEdge s e).result = .ok entry :=
  forall₂_of_mem (edges_of_ofFlow h) he

theorem failures_of_ofFlow (h : (FlowTable.ofFlow s f).result = .ok ft) : ft.failures = f.failures := by
  obtain ⟨edges, -, h⟩ := Logged.result_bind_eq_ok_iff.1 h
  cases h
  rfl

/-- Lists and flags of nodes are kept as they are. -/
theorem flags_of_ofFlow (h : (FlowTable.ofFlow s f).result = .ok ft) :
    ft.nowait = f.nowait ∧ ft.eagerFailures = f.eagerFailures ∧ ft.propagation = f.propagation ∧
      ft.nodeArgsFromFirst = f.nodeArgsFromFirst := by
  obtain ⟨edges, -, h⟩ := Logged.result_bind_eq_ok_iff.1 h
  cases h
  exact ⟨rfl, rfl, rfl, rfl⟩

end FlowTable

namespace DispatchTable

variable {digest : String → String} {t : DispatchTable} {name : String}

/-- The parts of a table. -/
theorem ofSystem_eq_ok (h : (DispatchTable.ofSystem digest s).result = .ok t) :
    (∃ flows, List.Forall₂ (fun f entry => entry.1 = f.name ∧ (FlowTable.ofFlow s f).result = .ok entry.2)
      s.flows.values flows ∧ t.flows = Dict.ofList flows) ∧
    t.tasks = Dict.ofList (s.tasks.values.map fun t => (t.name, TaskEntry.ofTask s.settings t)) ∧
    t.storages = Dict.ofList (s.storages.values.map fun s => (s.name, StorageEntry.ofStorage s)) := by
  obtain ⟨flows, hflows, h⟩ := Logged.result_bind_eq_ok_iff.1 h
  obtain ⟨_, -, h⟩ := Logged.result_bind_eq_ok_iff.1 h
  cases h
  refine ⟨⟨flows, (Logged.result_forAll_eq_ok_iff.1 hflows).imp fun f entry h => ?_, rfl⟩, rfl, rfl⟩
  obtain ⟨ft, hft, h⟩ := Logged.result_bind_eq_ok_iff.1 h
  cases h
  exact ⟨rfl, hft⟩

/-- A table has the flows of its system, each under its name. -/
theorem flow_of_ofSystem {f : Flow} (hnames : ∀ name f, s.flows.get? name = some f → f.name = name)
    (h : (DispatchTable.ofSystem digest s).result = .ok t) (hf : s.flows.get? name = some f) :
    ∃ ft, t.flows.get? name = some ft ∧ (FlowTable.ofFlow s f).result = .ok ft := by
  obtain ⟨⟨flows, hall, hflows⟩, -⟩ := ofSystem_eq_ok h
  have hkeys : s.flows.keys = flows.map Prod.fst := by
    rw [← Dict.map_name_values hnames]
    exact map_eq_map_of_forall₂ (hall.imp fun _ _ h => h.1.symm)
  obtain ⟨⟨name', ft⟩, hmem, hname', hft⟩ := forall₂_of_mem hall (Dict.mem_values_iff.2 ⟨name, hf⟩)
  refine ⟨ft, ?_, hft⟩
  rw [hflows, Dict.get?_ofList_eq_some_iff (hkeys ▸ s.flows.nodup_keys), ← hnames name f hf, ← hname']
  exact hmem

/-- A table has no other flows. -/
theorem exists_flow_of_ofSystem {ft : FlowTable} (hnames : ∀ name f, s.flows.get? name = some f → f.name = name)
    (h : (DispatchTable.ofSystem digest s).result = .ok t) (hft : t.flows.get? name = some ft) :
    ∃ f, s.flows.get? name = some f ∧ (FlowTable.ofFlow s f).result = .ok ft := by
  obtain ⟨⟨flows, hall, hflows⟩, -⟩ := ofSystem_eq_ok h
  rw [hflows] at hft
  obtain ⟨f, hf, rfl, hread⟩ := forall₂_of_mem hall.flip (Dict.mem_of_get?_ofList hft)
  obtain ⟨name, hname⟩ := Dict.mem_values_iff.1 hf
  cases hnames name f hname
  exact ⟨f, hname, hread⟩

theorem contains_flows_of_ofSystem (hnames : ∀ name f, s.flows.get? name = some f → f.name = name)
    (h : (DispatchTable.ofSystem digest s).result = .ok t) : t.flows.contains name = s.flows.contains name := by
  rw [Bool.eq_iff_iff, Dict.contains_iff, Dict.contains_iff]
  constructor
  · rintro ⟨ft, hft⟩
    obtain ⟨f, hf, -⟩ := exists_flow_of_ofSystem hnames h hft
    exact ⟨f, hf⟩
  · rintro ⟨f, hf⟩
    obtain ⟨ft, hft, -⟩ := flow_of_ofSystem hnames h hf
    exact ⟨ft, hft⟩

theorem get?_tasks_of_ofSystem (hnames : ∀ name t, s.tasks.get? name = some t → t.name = name)
    (h : (DispatchTable.ofSystem digest s).result = .ok t) :
    t.tasks.get? name = (s.tasks.get? name).map (TaskEntry.ofTask s.settings) := by
  obtain ⟨-, htasks, -⟩ := ofSystem_eq_ok h
  rw [htasks, Dict.get?_ofList_map_values hnames]

theorem contains_tasks_of_ofSystem (hnames : ∀ name t, s.tasks.get? name = some t → t.name = name)
    (h : (DispatchTable.ofSystem digest s).result = .ok t) : t.tasks.contains name = s.tasks.contains name := by
  rw [Dict.contains, get?_tasks_of_ofSystem hnames h, Option.isSome_map, Dict.contains]

theorem get?_storages_of_ofSystem (hnames : ∀ name st, s.storages.get? name = some st → st.name = name)
    (h : (DispatchTable.ofSystem digest s).result = .ok t) :
    t.storages.get? name = (s.storages.get? name).map StorageEntry.ofStorage := by
  obtain ⟨-, -, hstorages⟩ := ofSystem_eq_ok h
  rw [hstorages, Dict.get?_ofList_map_values hnames]

theorem contains_storages_of_ofSystem (hnames : ∀ name st, s.storages.get? name = some st → st.name = name)
    (h : (DispatchTable.ofSystem digest s).result = .ok t) : t.storages.contains name = s.storages.contains name := by
  rw [Dict.contains, get?_storages_of_ofSystem hnames h, Option.isSome_map, Dict.contains]

end DispatchTable

/-- A compiled table is the table of the system that is built. -/
theorem compileWith_eq_ok_iff {digest : String → String} {config : Configuration} {registry : Registry}
    {table : DispatchTable} :
    (compileWith digest config registry).result = .ok table ↔
      ∃ s, (System.build config registry).result = .ok s ∧ (DispatchTable.ofSystem digest s).result = .ok table := by
  rw [compileWith, Logged.result_mapError_eq_ok_iff]
  exact Logged.result_bind_eq_ok_iff

end TaskFlow
