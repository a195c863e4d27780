import TaskFlow.Proofs.Dispatch.References

/-!
# Consistency of the flows in a dispatch table

- `FlowTable.Consistent`: the rules that a flow of a table keeps, stated on the table alone: it starts somewhere, no
  edge stands twice, its lists of nodes, its flags and its fallbacks agree with one another;
- `FlowTable.starts_iff`: the table of a flow starts the nodes that the flow starts, since each failure rule has its
  fallback at a vertex and there are no others;
- `FlowTable.start_of_ofFlow` to `FlowTable.eagerFailures_of_ofFlow`: what each check of a flow says of its table;
- `compileWith_consistent`: every flow of a compiled table keeps the rules.
-/

namespace TaskFlow

namespace FlowTable

/-- An edge starts a node, or a fallback does. -/
def Starts (ft : FlowTable) (x : String) : Prop :=
  (∃ e ∈ ft.edges, x ∈ e.targets) ∨ ∃ v ∈ ft.failures.nodes, ∃ entry ∈ v.fallbacks, x ∈ entry.fallback.started

/-- The rules that a flow of a table keeps. -/
structure Consistent (t : DispatchTable) (ft : FlowTable) : Prop where
  start : ∃ e ∈ ft.edges, e.sources = []
  first : ft.nodeArgsFromFirst = true →
    ∃ e, ft.edges.filter (fun e => e.sources.isEmpty) = [e] ∧ e.targets.length = 1
  targets : ∀ e ∈ ft.edges, e.targets ≠ []
  distinct : ∀ e ∈ ft.edges, e.sources.Nodup ∧ e.targets.Nodup
  /-- No two edges lead out of the same nodes into the same nodes. -/
  edges : ft.edges.Pairwise fun e e' =>
    ¬((∀ x, x ∈ e.sources ↔ x ∈ e'.sources) ∧ ∀ x, x ∈ e.targets ↔ x ∈ e'.targets)
  nowait : ∀ x ∈ ft.nowait,
    ft.Starts x ∧ (∀ e ∈ ft.edges, x ∉ e.sources) ∧ ∀ v ∈ ft.failures.nodes, x ∉ v.traversed
  eagerFailures : ∀ x ∈ ft.eagerFailures,
    (ft.Starts x ∨ ∃ e ∈ ft.edges, x ∈ e.sources) ∧ x ∉ ft.nowait ∧ ∀ v ∈ ft.failures.nodes, x ∉ v.traversed
  /-- No sub-flow gets one outcome in two ways. -/
  subFlows : ∀ x, ft.Starts x → t.flows.contains x = true →
    ¬(ft.propagation.finished.appliesTo x = true ∧ ft.propagation.compoundFinished.appliesTo x = true) ∧
    ¬(ft.propagation.failures.appliesTo x = true ∧ ft.propagation.compoundFailures.appliesTo x = true)
  foreach : ∀ e ∈ ft.edges, ∀ f, e.foreach = some f → f.propagateResult = true →
    ∀ x ∈ e.targets, t.flows.contains x = true ∧ ft.propagation.nodeArgs.appliesTo x = false
  selective : ∀ e ∈ ft.edges, ∀ sel, e.selective = some sel → ∃ x, e.targets = [x] ∧ t.flows.contains x = true
  stop : ∀ v ∈ ft.failures.nodes, ∀ entry ∈ v.fallbacks, entry.fallback = .stopFlow → entry.propagateFailure = false
  fallbacks : ∀ v ∈ ft.failures.nodes, ∀ entry ∈ v.fallbacks, ∀ names, entry.fallback = .nodes names →
    names ≠ [] ∧ names.Nodup

end FlowTable

section Flow

variable {digest : String → String} {config : Configuration} {registry : Registry} {s : System} {t : DispatchTable}
  {name x : String} {f : Flow} {ft : FlowTable}

/-- The edges that start a flow start its table. -/
theorem FlowTable.starting_of_ofFlow (hft : (FlowTable.ofFlow s f).result = .ok ft) :
    List.Forall₂ (fun e entry => (EdgeEntry.ofEdge s e).result = .ok entry) f.startingEdges
      (ft.edges.filter fun entry => entry.sources.isEmpty) := by
  refine List.rel_filter (fun {e entry} hread => ?_) (FlowTable.edges_of_ofFlow hft)
  change e.sources.isEmpty = true ↔ entry.sources.isEmpty = true
  rw [EdgeEntry.sources_of_ofEdge hread]

/-- The edges of a flow lead from and to the same nodes in its table. -/
theorem FlowTable.ends_of_ofFlow (hft : (FlowTable.ofFlow s f).result = .ok ft) :
    ft.edges.map (fun entry => (NameSet.ofList entry.sources, NameSet.ofList entry.targets)) =
      f.edges.map fun e => (NameSet.ofList e.sources, NameSet.ofList e.targets) := by
  refine (map_eq_map_of_forall₂ ((FlowTable.edges_of_ofFlow hft).imp fun e entry hread => ?_)).symm
  rw [EdgeEntry.sources_of_ofEdge hread, EdgeEntry.targets_of_ofEdge hread]

/-- The table of a flow starts what the flow starts. -/
theorem FlowTable.starts_iff (hbuilt : s.BuiltFrom config registry) (hf : s.flows.get? name = some f)
    (hft : (FlowTable.ofFlow s f).result = .ok ft) : ft.Starts x ↔ x ∈ f.destinationNodes := by
  have hrules : ∀ r ∈ f.rules, r.nodes ≠ [] ∧ r.nodes.Nodup := fun r hr => hbuilt.nodes_of_rule hf hr
  rw [FlowTable.Starts, FlowTable.failures_of_ofFlow hft, Flow.mem_destinationNodes_iff, Flow.mem_edgeTargets_iff,
    Flow.mem_fallbackNodes_iff]
  refine or_congr ⟨?_, ?_⟩ ⟨?_, ?_⟩
  · rintro ⟨entry, hentry, hx⟩
    obtain ⟨e, he, hread⟩ := FlowTable.exists_edge_of_ofFlow hft hentry
    exact ⟨e, he, EdgeEntry.targets_of_ofEdge hread ▸ hx⟩
  · rintro ⟨e, he, hx⟩
    obtain ⟨entry, hentry, hread⟩ := FlowTable.exists_entry_of_ofFlow hft he
    exact ⟨entry, hentry, (EdgeEntry.targets_of_ofEdge hread).symm ▸ hx⟩
  · rintro ⟨v, hv, entry, hentry, hx⟩
    obtain ⟨r, hr, rfl⟩ := FailureGraph.exists_rule_of_mem_fallbacks hrules hv hentry
    exact ⟨r, hr, hx⟩
  · rintro ⟨r, hr, hx⟩
    obtain ⟨v, hv, -, hentry⟩ := FailureGraph.exists_mem_fallbacks_of_rule hrules hr
    exact ⟨v, hv, .ofRule r, hentry, hx⟩

/-! ## The checks of a flow, seen from its table -/

theorem FlowTable.start_of_ofFlow (hft : (FlowTable.ofFlow s f).result = .ok ft) (hchecked : f.checkStart = .ok ()) :
    (∃ e ∈ ft.edges, e.sources = []) ∧
      (ft.nodeArgsFromFirst = true →
        ∃ e, ft.edges.filter (fun e => e.sources.isEmpty) = [e] ∧ e.targets.length = 1) := by
  obtain ⟨hsome, hsingle⟩ := Flow.checkStart_eq_ok_iff.1 hchecked
  constructor
  · obtain ⟨e, he⟩ := List.exists_mem_of_ne_nil _ hsome
    obtain ⟨hmem, hempty⟩ := List.mem_filter.1 he
    obtain ⟨entry, hentry, hread⟩ := FlowTable.exists_entry_of_ofFlow hft hmem
    exact ⟨entry, hentry, (EdgeEntry.sources_of_ofEdge hread).trans (List.isEmpty_iff.1 hempty)⟩
  · intro hset
    obtain ⟨-, -, -, hfirst⟩ := FlowTable.flags_of_ofFlow hft
    rw [hfirst] at hset
    obtain ⟨e, hone, hlength⟩ := hsingle hset
    have hstarting := FlowTable.starting_of_ofFlow hft
    rw [hone] at hstarting
    obtain ⟨entry, entries, hread, hrest, heq⟩ := List.forall₂_cons_left_iff.1 hstarting
    rw [List.forall₂_nil_left_iff] at hrest
    subst hrest
    exact ⟨entry, heq, (congrArg List.length (EdgeEntry.targets_of_ofEdge hread)).trans hlength⟩

theorem FlowTable.pairwise_of_ofFlow (hft : (FlowTable.ofFlow s f).result = .ok ft)
    (hchecked : Flow.checkDuplicates [] f.edges = .ok ()) :
    ft.edges.Pairwise fun e e' =>
      ¬((∀ x, x ∈ e.sources ↔ x ∈ e'.sources) ∧ ∀ x, x ∈ e.targets ↔ x ∈ e'.targets) := by
  obtain ⟨hnodup, -⟩ := Flow.checkDuplicates_eq_ok_iff.1 hchecked
  rw [← FlowTable.ends_of_ofFlow hft, List.Nodup, List.pairwise_map] at hnodup
  refine hnodup.imp fun {entry entry'} hne ⟨hsources, htargets⟩ => hne ?_
  rw [NameSet.ofList_congr hsources, NameSet.ofList_congr htargets]

theorem FlowTable.nowait_of_ofFlow (hbuilt : s.BuiltFrom config registry) (hf : s.flows.get? name = some f)
    (hft : (FlowTable.ofFlow s f).result = .ok ft) (hchecked : f.checkNowait = .ok ()) (hx : x ∈ ft.nowait) :
    ft.Starts x ∧ (∀ e ∈ ft.edges, x ∉ e.sources) ∧ ∀ v ∈ ft.failures.nodes, x ∉ v.traversed := by
  obtain ⟨hnowait, -⟩ := FlowTable.flags_of_ofFlow hft
  rw [hnowait] at hx
  obtain ⟨hstarted, hsource⟩ := Flow.checkNowait_eq_ok_iff.1 hchecked x hx
  rw [Flow.mem_sourceNodes_iff, not_or] at hsource
  refine ⟨(FlowTable.starts_iff hbuilt hf hft).2 hstarted, fun entry hentry hmem => hsource.1 ?_,
    fun v hv hmem => hsource.2 (FlowTable.exists_rule_of_traversed hft hv hmem)⟩
  obtain ⟨e, he, hread⟩ := FlowTable.exists_edge_of_ofFlow hft hentry
  exact ⟨e, he, EdgeEntry.sources_of_ofEdge hread ▸ hmem⟩

theorem FlowTable.eagerFailures_of_ofFlow (hbuilt : s.BuiltFrom config registry) (hf : s.flows.get? name = some f)
    (hft : (FlowTable.ofFlow s f).result = .ok ft) (hchecked : f.checkEagerFailures = .ok ())
    (hx : x ∈ ft.eagerFailures) :
    (ft.Starts x ∨ ∃ e ∈ ft.edges, x ∈ e.sources) ∧ x ∉ ft.nowait ∧ ∀ v ∈ ft.failures.nodes, x ∉ v.traversed := by
  obtain ⟨hnowait, heager, -⟩ := FlowTable.flags_of_ofFlow hft
  rw [heager] at hx
  obtain ⟨hused, hwaits, hfallback⟩ := Flow.checkEagerFailures_eq_ok_iff.1 hchecked x hx
  refine ⟨?_, hnowait ▸ hwaits, fun v hv hmem => ?_⟩
  · rcases Flow.mem_usedNodes_iff.1 hused with hsource | hdestination
    · rcases Flow.mem_sourceNodes_iff.1 hsource with ⟨e, he, hmem⟩ | ⟨r, hr, hmem⟩
      · obtain ⟨entry, hentry, hread⟩ := FlowTable.exists_entry_of_ofFlow hft he
        exact Or.inr ⟨entry, hentry, (EdgeEntry.sources_of_ofEdge hread).symm ▸ hmem⟩
      · exact absurd hmem (hfallback r hr)
    · exact Or.inl ((FlowTable.starts_iff hbuilt hf hft).2 hdestination)
  · obtain ⟨r, hr, hnode⟩ := FlowTable.exists_rule_of_traversed hft hv hmem
    exact hfallback r hr hnode

/-- The table of a flow that a system was built with keeps the rules. -/
theorem FlowTable.consistent_of_ofFlow (hconfig : config.Accepted) (hbuilt : s.BuiltFrom config registry)
    (ht : (DispatchTable.ofSystem digest s).result = .ok t) (hf : s.flows.get? name = some f)
    (hft : (FlowTable.ofFlow s f).result = .ok ft) : ft.Consistent t := by
  have hflow : ∀ x, (System.scopeOf config registry s).kind? x = some .flow → t.flows.contains x = true := by
    intro x hx
    rw [hbuilt.kind?_scopeOf hconfig] at hx
    rw [DispatchTable.contains_flows_of_ofSystem (fun _ _ => hbuilt.name_eq) ht]
    exact System.contains_flows_of_kind? hx
  obtain ⟨-, -, hflags, -⟩ := FlowTable.flags_of_ofFlow hft
  obtain ⟨hstart, -, hduplicates, hnowait, heager, hrules, hpropagation, -⟩ :=
    System.checkFlow_eq_ok_iff.1 (hbuilt.checked name f hf)
  constructor
  case start => exact (FlowTable.start_of_ofFlow hft hstart).1
  case first => exact (FlowTable.start_of_ofFlow hft hstart).2
  case targets =>
    intro entry hentry
    obtain ⟨e, he, hread⟩ := FlowTable.exists_edge_of_ofFlow hft hentry
    rw [EdgeEntry.targets_of_ofEdge hread]
    exact hbuilt.targets_ne_nil hf he
  case distinct =>
    intro entry hentry
    obtain ⟨e, he, hread⟩ := FlowTable.exists_edge_of_ofFlow hft hentry
    obtain ⟨hsources, htargets, -⟩ := Edge.check_eq_ok_iff.1 (hbuilt.edge_checked hf he)
    rw [EdgeEntry.sources_of_ofEdge hread, EdgeEntry.targets_of_ofEdge hread]
    exact ⟨hsources, htargets⟩
  case edges => exact FlowTable.pairwise_of_ofFlow hft hduplicates
  case nowait => exact fun x => FlowTable.nowait_of_ofFlow hbuilt hf hft hnowait
  case eagerFailures => exact fun x => FlowTable.eagerFailures_of_ofFlow hbuilt hf hft heager
  case subFlows =>
    intro x hx hcontains
    rw [DispatchTable.contains_flows_of_ofSystem (fun _ _ => hbuilt.name_eq) ht] at hcontains
    obtain ⟨-, hsubFlows⟩ := System.checkPropagation_eq_ok_iff.1 hpropagation
    rw [hflags]
    have hstarted := (FlowTable.starts_iff hbuilt hf hft).1 hx
    exact Flow.checkSubFlow_eq_ok_iff.1 (hsubFlows x (System.mem_subFlows_iff.2 ⟨hstarted, hcontains⟩))
  case foreach =>
    intro entry hentry fan hfan hpropagates x hx
    obtain ⟨e, he, hread⟩ := FlowTable.exists_edge_of_ofFlow hft hentry
    rw [EdgeEntry.foreach_of_ofEdge hread] at hfan
    rw [EdgeEntry.targets_of_ofEdge hread] at hx
    obtain ⟨-, -, hforeach, -⟩ := Edge.check_eq_ok_iff.1 (hbuilt.edge_checked hf he)
    obtain ⟨hkind, hargs⟩ := Edge.checkForeach_eq_ok_iff.1 hforeach fan hfan hpropagates x hx
    exact ⟨hflow x hkind, hflags ▸ hargs⟩
  case selective =>
    intro entry hentry sel hsel
    obtain ⟨e, he, hread⟩ := FlowTable.exists_edge_of_ofFlow hft hentry
    obtain ⟨hrun, -⟩ := EdgeEntry.exists_plan_of_ofEdge hread hsel
    obtain ⟨-, -, -, hselective⟩ := Edge.check_eq_ok_iff.1 (hbuilt.edge_checked hf he)
    obtain ⟨x, htargets, hkind⟩ := Edge.checkSelective_eq_ok_iff.1 hselective _ hrun
    exact ⟨x, (EdgeEntry.targets_of_ofEdge hread).trans htargets, hflow x hkind⟩
  case stop =>
    intro v hv entry hentry hstop
    obtain ⟨r, hr, rfl⟩ := FlowTable.exists_rule_of_fallback hbuilt hf hft hv hentry
    exact (hbuilt.fallback_of_rule hf hr).1 hstop
  case fallbacks =>
    intro v hv entry hentry names hnames
    obtain ⟨r, hr, rfl⟩ := FlowTable.exists_rule_of_fallback hbuilt hf hft hv hentry
    have hkept : r.fallback = .nodes names := hnames
    obtain ⟨-, hnodup⟩ := Flow.checkRule_eq_ok_iff.1 (hrules r hr)
    rw [hkept] at hnodup
    exact ⟨(hbuilt.fallback_of_rule hf hr).2 names hkept, hnodup⟩

end Flow

/-- **Every flow of a compiled table is consistent**, whatever the documents and the registry it was compiled from: the
rules hold of the table alone, wherever they were checked on the way there. -/
theorem compileWith_consistent {digest : String → String} {docs : Documents} {config : Configuration}
    {registry : Registry} {t : DispatchTable} (hconfig : docs.check.result = .ok config)
    (ht : (compileWith digest config registry).result = .ok t) {name : String} {ft : FlowTable}
    (hft : t.flows.get? name = some ft) : ft.Consistent t := by
  have haccepted := Documents.accepted_of_check hconfig
  obtain ⟨s, hs, ht⟩ := compileWith_eq_ok_iff.1 ht
  have hbuilt := System.builtFrom_of_build haccepted hs
  obtain ⟨f, hf, hread⟩ := DispatchTable.exists_flow_of_ofSystem (fun _ _ => hbuilt.name_eq) ht hft
  exact FlowTable.consistent_of_ofFlow haccepted hbuilt ht hf hread

/-- A flow that takes its arguments from its first node, and fans selective runs of a sub-flow out that nothing waits
for. -/
theorem compileWith_consistent_fanout :
    let docs : Documents := {
      nodes := {
        flows := ["f", "g"]
        tasks := [{ name := "a", moduleName := "app" }, { name := "b", moduleName := "app" }] }
      flows := [⟨[{
        name := "f"
        edges := [
          { sources := some [], targets := some ["a"] },
          { sources := some ["a"]
            targets := some ["g"]
            foreach := some { function := "items", moduleName := "app", propagateResult := true }
            selective := some { tasks := ["b"] } }]
        failures := [{ nodes := ["a"], fallback := .nodes ["b"] }]
        nowait := ["g"]
        eagerFailures := ["b"]
        propagation := { finished := .flag true, compoundFailures := .flag true }
        nodeArgsFromFirst := true }, {
        name := "g"
        edges := [{ sources := some [], targets := some ["b"] }] }]⟩] }
    let config : Configuration := ⟨docs.nodes, docs.definitions⟩
    let registry := Registry.builtin.registerForeach ⟨"app", "items"⟩
    docs.check.result = .ok config ∧ ∃ t, (compileWith (fun _ => "") config registry).result = .ok t ∧
      ∃ ft, t.flows.get? "f" = some ft ∧ ft.Consistent t ∧ ft.Starts "g" ∧ (∀ e ∈ ft.edges, "g" ∉ e.sources) ∧
        ∃ e, ft.edges.filter (fun e => e.sources.isEmpty) = [e] ∧ e.targets.length = 1 := by
  intro docs config registry
  have hconfig : docs.check.result = .ok config := rfl
  have hcompiles : ((compileWith (fun _ => "") config registry).result.toOption.any fun t =>
      (t.flows.get? "f").any fun ft => ft.nowait == .ofList ["g"] && ft.nodeArgsFromFirst) = true := by decide
  obtain ⟨t, ht, h⟩ := Except.toOption_any_iff.1 hcompiles
  simp only [Option.any_eq_true, Bool.and_eq_true, beq_iff_eq] at h
  obtain ⟨ft, hft, hnowait, hfirst⟩ := h
  have hconsistent := compileWith_consistent hconfig ht hft
  obtain ⟨hstarts, hsources, -⟩ := hconsistent.nowait "g" (by rw [hnowait]; decide)
  exact ⟨hconfig, t, ht, ft, hft, hconsistent, hstarts, hsources, hconsistent.first hfirst⟩

end TaskFlow
