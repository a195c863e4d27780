import TaskFlow.Proofs.Failure.Graph
import TaskFlow.Proofs.Failure.Rule
import TaskFlow.Proofs.System.Consistency
import TaskFlow.Proofs.System.Plan

/-!
# What a built system refers to

- `BuiltFrom.kind?_scopeOf`: what a definition can refer to is just what the system has in the end, tasks and flows;
- `BuiltFrom.kind?_of_mem_edge` to `BuiltFrom.kind?_of_runsTask`: so every node of an edge or a rule, and every task
  that a flow runs, is one of them;
- `exists_flow_of_selectivePlan`: a plan is for flows, and numbers edges that these have;
- `task_declared_of_build` and its like: a system has no parts but those declared.
-/

namespace TaskFlow

namespace System

variable {config : Configuration} {registry : Registry} {s : System} {name x : String} {f : Flow}

theorem isSome_kind?_iff : (s.kind? x).isSome ↔ s.tasks.contains x = true ∨ s.flows.contains x = true := by
  unfold kind? node? Dict.contains
  cases s.tasks.get? x with
  | some t => simp
  | none => simp

theorem contains_flows_of_kind? (h : s.kind? x = some .flow) : s.flows.contains x = true := by
  have hsome : (s.kind? x).isSome := by rw [h]; rfl
  have htask := kind?_eq_flow h
  rw [isSome_kind?_iff, htask] at hsome
  exact hsome.resolve_left Bool.false_ne_true

/-! ## Declared parts -/

theorem task_declared_of_build (h : (build config registry).result = .ok s) (hx : s.tasks.contains x = true) :
    x ∈ config.nodes.tasks.map (·.name) := by
  obtain ⟨-, storages, tasks, flows, -, htasks, -, rfl, -⟩ := build_eq_ok_iff.1 h
  obtain ⟨t, ht⟩ := Dict.contains_iff.1 hx
  obtain ⟨decl, hdecl, hbuilt⟩ := forall₂_of_mem htasks.flip (Dict.mem_of_get?_ofList ht)
  exact List.mem_map.2 ⟨decl, hdecl, (key_of_buildTask hbuilt).symm⟩

theorem storage_declared_of_build (h : (build config registry).result = .ok s) (hx : s.storages.contains x = true) :
    x ∈ config.nodes.storages.map (·.name) := by
  obtain ⟨-, storages, tasks, flows, hstorages, -, -, rfl, -⟩ := build_eq_ok_iff.1 h
  obtain ⟨storage, hstorage⟩ := Dict.contains_iff.1 hx
  obtain ⟨decl, hdecl, hbuilt⟩ := forall₂_of_mem hstorages.flip (Dict.mem_of_get?_ofList hstorage)
  exact List.mem_map.2 ⟨decl, hdecl, (key_of_buildStorage hbuilt).symm⟩

namespace BuiltFrom

/-- The flows are those declared. -/
theorem contains_flows_iff (h : s.BuiltFrom config registry) (hconfig : config.Accepted) :
    s.flows.contains x = true ↔ x ∈ config.nodes.flows := by
  rw [Dict.contains_iff, ← hconfig.names_definitions, List.mem_map]
  constructor
  · rintro ⟨f, hf⟩
    obtain ⟨d, hd, hname, -⟩ := h.definition_of_flow x f hf
    exact ⟨d, hd, hname⟩
  · rintro ⟨d, hd, rfl⟩
    obtain ⟨f, hf, -⟩ := h.flow_of_mem d hd
    exact ⟨f, hf⟩

/-! ## Nodes -/

/-- What a definition can refer to is what the system has. -/
theorem kind?_scopeOf (h : s.BuiltFrom config registry) (hconfig : config.Accepted) :
    (scopeOf config registry s).kind? x = s.kind? x := by
  have hflows : (NameSet.ofList config.nodes.flows).contains x = s.flows.contains x := by
    rw [Bool.eq_iff_iff, NameSet.contains_iff, NameSet.mem_ofList, h.contains_flows_iff hconfig]
  unfold Scope.kind? scopeOf kind? node?
  rw [hflows]
  unfold Dict.contains
  cases s.tasks.get? x with
  | some t => rfl
  | none => cases s.flows.get? x <;> rfl

theorem kind?_of_mem_edge (h : s.BuiltFrom config registry) (hconfig : config.Accepted)
    (hf : s.flows.get? name = some f) {e : Edge} (he : e ∈ f.edges) (hx : x ∈ e.sources ++ e.targets) :
    (s.kind? x).isSome := by
  obtain ⟨_, -, -, decl, -, hread⟩ := h.exists_edgeDecl hf he
  obtain ⟨hends, -⟩ := Edge.ofDecl_eq_ok_iff.1 hread
  obtain ⟨-, -, -, hknown⟩ := Edge.endsOf_eq_ok hends
  rw [← h.kind?_scopeOf hconfig]
  exact hknown x hx

/-- An edge leads somewhere. -/
theorem targets_ne_nil (h : s.BuiltFrom config registry) (hf : s.flows.get? name = some f) {e : Edge}
    (he : e ∈ f.edges) : e.targets ≠ [] := by
  obtain ⟨_, -, -, decl, -, hread⟩ := h.exists_edgeDecl hf he
  exact Edge.targets_ne_nil_of_ofDecl hread

/-- An edge passed the checks inside its flow. -/
theorem edge_checked (h : s.BuiltFrom config registry) (hf : s.flows.get? name = some f) {e : Edge} (he : e ∈ f.edges) :
    Edge.check (scopeOf config registry s) f.propagation.nodeArgs e = .ok () := by
  obtain ⟨d, -, -, hflow⟩ := h.definition_of_flow name f hf
  obtain ⟨_, _, _, _, _, -, -, -, -, -, hchecked, rfl⟩ := Flow.ofDefinition_eq_ok_iff.1 hflow
  exact hchecked e he

theorem nodes_of_rule (h : s.BuiltFrom config registry) (hf : s.flows.get? name = some f) {r : FailureRule}
    (hr : r ∈ f.rules) : r.nodes ≠ [] ∧ r.nodes.Nodup := by
  obtain ⟨_, -, -, decl, -, hread⟩ := h.exists_failureDecl hf hr
  obtain ⟨hnodes, -, hne, hchecked, -⟩ := FailureRule.ofDecl_eq_ok_iff.1 hread
  rw [hnodes]
  exact ⟨hne, (FailureRule.checkNodes_eq_ok_iff.1 hchecked).1.1⟩

theorem kind?_of_mem_rule (h : s.BuiltFrom config registry) (hconfig : config.Accepted)
    (hf : s.flows.get? name = some f) {r : FailureRule} (hr : r ∈ f.rules) (hx : x ∈ r.nodes) : (s.kind? x).isSome := by
  obtain ⟨_, -, -, decl, -, hread⟩ := h.exists_failureDecl hf hr
  obtain ⟨hnodes, -, -, hchecked, -⟩ := FailureRule.ofDecl_eq_ok_iff.1 hread
  rw [hnodes] at hx
  rw [← h.kind?_scopeOf hconfig]
  exact (FailureRule.checkNodes_eq_ok_iff.1 hchecked).2 x hx

theorem kind?_of_mem_fallback (h : s.BuiltFrom config registry) (hconfig : config.Accepted)
    (hf : s.flows.get? name = some f) {r : FailureRule} (hr : r ∈ f.rules) (hx : x ∈ r.fallback.started) :
    (s.kind? x).isSome := by
  obtain ⟨_, -, -, decl, -, hread⟩ := h.exists_failureDecl hf hr
  obtain ⟨-, -, -, -, hfallback, -⟩ := FailureRule.ofDecl_eq_ok_iff.1 hread
  rw [← h.kind?_scopeOf hconfig]
  exact (FailureRule.fallbackOf_eq_ok hfallback).1 x hx

/-- A fallback stops the flow and propagates nothing, or starts a node at least. -/
theorem fallback_of_rule (h : s.BuiltFrom config registry) (hf : s.flows.get? name = some f) {r : FailureRule}
    (hr : r ∈ f.rules) :
    (r.fallback = .stopFlow → r.propagateFailure = false) ∧ ∀ names, r.fallback = .nodes names → names ≠ [] := by
  obtain ⟨_, -, -, decl, -, hread⟩ := h.exists_failureDecl hf hr
  obtain ⟨-, hpropagates, -, -, hfallback, hchecked, -⟩ := FailureRule.ofDecl_eq_ok_iff.1 hread
  refine ⟨fun hstop => ?_, (FailureRule.fallbackOf_eq_ok hfallback).2⟩
  rw [hstop] at hchecked
  exact hpropagates.trans (FailureRule.checkFallback_eq_ok hchecked)

theorem kind?_of_mem_destinationNodes (h : s.BuiltFrom config registry) (hconfig : config.Accepted)
    (hf : s.flows.get? name = some f) (hx : x ∈ f.destinationNodes) : (s.kind? x).isSome := by
  rcases Flow.mem_destinationNodes_iff.1 hx with hedge | hfallback
  · obtain ⟨e, he, hmem⟩ := Flow.mem_edgeTargets_iff.1 hedge
    exact h.kind?_of_mem_edge hconfig hf he (List.mem_append_right _ hmem)
  · obtain ⟨r, hr, hmem⟩ := Flow.mem_fallbackNodes_iff.1 hfallback
    exact h.kind?_of_mem_fallback hconfig hf hr hmem

theorem kind?_of_mem_usedNodes (h : s.BuiltFrom config registry) (hconfig : config.Accepted)
    (hf : s.flows.get? name = some f) (hx : x ∈ f.usedNodes) : (s.kind? x).isSome := by
  rcases Flow.mem_usedNodes_iff.1 hx with hsource | hdestination
  · rcases Flow.mem_sourceNodes_iff.1 hsource with ⟨e, he, hmem⟩ | ⟨r, hr, hmem⟩
    · exact h.kind?_of_mem_edge hconfig hf he (List.mem_append_left _ hmem)
    · exact h.kind?_of_mem_rule hconfig hf hr hmem
  · exact h.kind?_of_mem_destinationNodes hconfig hf hdestination

theorem kind?_of_contains_graph (h : s.BuiltFrom config registry) (hconfig : config.Accepted)
    (hf : s.flows.get? name = some f) (hx : f.graph.contains x = true) : (s.kind? x).isSome := by
  obtain ⟨e, he, hmem⟩ := FlowGraph.mem_names_ofEdges_iff.1 (FlowGraph.contains_iff.1 hx)
  refine h.kind?_of_mem_edge hconfig hf he (List.mem_append.2 ?_)
  rcases hmem with htarget | ⟨-, hsource⟩
  · exact Or.inr htarget
  · exact Or.inl hsource

/-- A task that a flow runs is a node of some flow. -/
theorem kind?_of_runsTask (h : s.BuiltFrom config registry) (hconfig : config.Accepted)
    (hf : s.flows.get? name = some f) {follow : Bool} (hx : s.runsTask f x follow = true) : (s.kind? x).isSome := by
  have hname := h.name_eq hf
  rw [← hname] at hf
  obtain ⟨_, g, hg, hcontains, -⟩ := (runsTask_iff_reflTransGen hf).1 hx
  exact h.kind?_of_contains_graph hconfig hg hcontains

end BuiltFrom

/-! ## Plans -/

section Plan

variable {follow : Bool} {runSubsequent : Propagation} {plan : Dict (List Nat)} {indices : List Nat}

/-- What a visit adds to a plan is that of a flow. -/
theorem get?_planVisit_cases {v : Visit} (h : (s.planVisit follow runSubsequent plan v).get? x = some indices) :
    plan.get? x = some indices ∨
      ∃ f targets, s.flows.get? x = some f ∧ indices = f.graph.plan f.edges targets := by
  unfold planVisit at h
  split at h
  · exact Or.inl h
  · rename_i f hf
    dsimp only at h
    split at h
    · exact Or.inl h
    · rw [Dict.get?_insert] at h
      split at h
      · rename_i hx
        cases h
        exact Or.inr ⟨f, _, hx ▸ hf, rfl⟩
      · exact Or.inl h

theorem get?_planAll_cases {left : List Visit}
    (h : (s.planAll follow runSubsequent left plan).get? x = some indices) :
    plan.get? x = some indices ∨
      ∃ f targets, s.flows.get? x = some f ∧ indices = f.graph.plan f.edges targets := by
  induction left generalizing plan with
  | nil => exact Or.inl h
  | cons v left ih =>
    rcases ih h with hvisit | hplanned
    · exact get?_planVisit_cases hvisit
    · exact Or.inr hplanned

/-- A plan is for flows, and numbers edges of theirs. -/
theorem exists_flow_of_selectivePlan (hnames : ∀ name f, s.flows.get? name = some f → f.name = name) {target : String}
    {tasks : List String} (hplan : (s.selectivePlan target tasks runSubsequent follow).result = .ok plan)
    (h : plan.get? x = some indices) :
    ∃ f, s.flows.get? x = some f ∧ ∀ i ∈ indices, i < f.edges.length := by
  obtain ⟨-, _, left, -, -, rfl⟩ := (planSelective_eq_ok_iff hnames).1 (selectivePlan_eq_ok_iff.1 hplan)
  rcases get?_planAll_cases h with hempty | ⟨f, targets, hf, rfl⟩
  · cases hempty
  · refine ⟨f, hf, fun i hi => ?_⟩
    obtain ⟨e, he, -⟩ := FlowGraph.mem_plan_iff.1 hi
    exact (List.getElem?_eq_some_iff.1 he).1

end Plan

end System

end TaskFlow
