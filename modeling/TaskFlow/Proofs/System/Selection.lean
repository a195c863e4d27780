import TaskFlow.Proofs.System.Build
import TaskFlow.Proofs.System.Plan

/-!
# What a selective run starts

- `System.PlansEdge plan flow node`: a planned edge of a flow leads to a node; chains of it are what a run goes through;
- `plansEdge_of_mem_targetsOf`: a node that a visit plans is started by planned edges, all that lead to it;
- `selectivePlan_reaches_tasks`: without fallback nodes, planned edges lead from flow to flow to every task asked for;
- `selectivePlan_starts_flows`: a flow is planned only where planned edges start it, or where the search came to it
  through a flow that has it as a fallback.
-/

namespace TaskFlow

namespace System

variable {s : System} {follow : Bool} {runSubsequent : Propagation} {left before after : List Visit} {v w : Visit}
  {plan : Dict (List Nat)} {f : Flow} {x : String}

/-- A planned edge of a flow leads to a node. -/
def PlansEdge (s : System) (plan : Dict (List Nat)) (flow node : String) : Prop :=
  ∃ f indices i e, s.flows.get? flow = some f ∧ plan.get? flow = some indices ∧ i ∈ indices ∧
    f.edges[i]? = some e ∧ node ∈ e.targets

instance (plan : Dict (List Nat)) (flow node : String) : Decidable (s.PlansEdge plan flow node) :=
  decidable_of_iff (((s.flows.get? flow).any fun f => (plan.get? flow).any fun indices => indices.any fun i =>
    f.edges[i]?.any fun e => e.targets.contains node) = true) (by
      simp only [Option.any_eq_true, List.any_eq_true, List.contains_iff_mem, PlansEdge]
      constructor
      · rintro ⟨f, hf, indices, hindices, i, hi, e, he, hnode⟩
        exact ⟨f, indices, i, e, hf, hindices, hi, he, hnode⟩
      · rintro ⟨f, indices, i, e, hf, hindices, hi, he, hnode⟩
        exact ⟨f, hf, indices, hindices, i, hi, e, he, hnode⟩)

theorem PlansEdge.mem_keys {flow node : String} (h : s.PlansEdge plan flow node) : flow ∈ plan.keys := by
  obtain ⟨_, indices, _, _, -, hindices, -⟩ := h
  exact Dict.mem_keys_iff.2 ⟨indices, hindices⟩

/-- A flow starts another one, by an edge or as a fallback. -/
def Nests (s : System) (flow sub : String) : Prop := ∃ f, s.flows.get? flow = some f ∧ sub ∈ s.subFlows f

theorem nests_of_mem_asks (hw : w ∈ s.asks follow v) : follow = true ∧ s.Nests v.flow w.flow := by
  obtain ⟨hfollow, f, hf, hsub, -⟩ := mem_asks_iff.1 hw
  exact ⟨hfollow, f, hf, hsub⟩

theorem mem_destinationNodes_of_mem_subFlows (h : x ∈ s.subFlows f) : x ∈ f.destinationNodes :=
  (NameSet.mem_filter.1 h).1

/-! ## Planned edges of a search -/

/-- A flow is planned once it is left, whatever is left later. -/
theorem contains_planAll_append (hnodup : ((before ++ after).map Visit.flow).Nodup) (hw : w ∈ before) :
    (s.planAll follow runSubsequent (before ++ after) plan).contains w.flow =
      (s.planAll follow runSubsequent before plan).contains w.flow := by
  rw [List.map_append, List.nodup_append] at hnodup
  have hnot : w.flow ∉ after.map Visit.flow := fun hmem =>
    hnodup.2.2 _ (List.mem_map_of_mem hw) _ hmem rfl
  rw [planAll_append, Dict.contains, get?_planAll_of_notMem hnot]
  rfl

/-- A node that a visit plans is started by planned edges. -/
theorem plansEdge_of_mem_targetsOf (hnodup : ((before ++ v :: after).map Visit.flow).Nodup)
    (hf : s.flows.get? v.flow = some f)
    (hx : x ∈ s.targetsOf follow (s.planAll follow runSubsequent before plan) f v) (hedge : x ∈ f.edgeTargets) :
    s.PlansEdge (s.planAll follow runSubsequent (before ++ v :: after) plan) v.flow x := by
  obtain ⟨e, he, hxe⟩ := Flow.mem_edgeTargets_iff.1 hedge
  obtain ⟨i, hi⟩ := List.mem_iff_getElem?.1 he
  have hplanned : i ∈ f.graph.plan f.edges (f.widen (runSubsequent.appliesTo v.flow)
      (s.targetsOf follow (s.planAll follow runSubsequent before plan) f v)) :=
    FlowGraph.mem_plan_of_mem_targets hi (Flow.mem_widen_of_mem _ hx) hxe
  refine ⟨f, _, i, e, hf, ?_, hplanned, hi, hxe⟩
  rw [get?_planAll hnodup, planVisit_of_targetsOf_ne_nil hf (List.ne_nil_of_mem hx), Dict.get?_insert, if_pos rfl]

/-- A planned flow that is asked by a flow whose edges start it is started by planned edges. -/
theorem plansEdge_of_mem_asks (hnodup : ((before ++ v :: after).map Visit.flow).Nodup)
    (hf : s.flows.get? v.flow = some f) (hw : w ∈ before) (hasks : w ∈ s.asks follow v)
    (hplanned : (s.planAll follow runSubsequent (before ++ v :: after) plan).contains w.flow = true)
    (hedge : w.flow ∈ f.edgeTargets) :
    s.PlansEdge (s.planAll follow runSubsequent (before ++ v :: after) plan) v.flow w.flow := by
  refine plansEdge_of_mem_targetsOf hnodup hf (List.mem_append_right _ (List.mem_filter.2 ?_)) hedge
  rw [contains_planAll_append hnodup hw] at hplanned
  rw [Flow.contains_graph_of_mem_edgeTargets hedge, hplanned]
  exact ⟨List.mem_map_of_mem hasks, rfl⟩

/-! ## Runs without fallback nodes -/

/-- No failure of a flow starts other nodes. -/
def NoFallbackNodes (s : System) : Prop := ∀ name f, s.flows.get? name = some f → ∀ r ∈ f.rules, r.fallback = .stopFlow

theorem mem_edgeTargets_of_noFallbackNodes (h : s.NoFallbackNodes) {name : String} (hf : s.flows.get? name = some f)
    (hx : x ∈ f.destinationNodes) : x ∈ f.edgeTargets := by
  refine (Flow.mem_destinationNodes_iff.1 hx).resolve_right fun hfallback => ?_
  obtain ⟨r, hr, hstarted⟩ := Flow.mem_fallbackNodes_iff.1 hfallback
  rw [h name f hf r hr] at hstarted
  cases hstarted

theorem edgesStartSubFlows_of_noFallbackNodes (h : s.NoFallbackNodes) : s.EdgesStartSubFlows := fun _ _ hf _ hsub =>
  Flow.contains_graph_of_mem_edgeTargets
    (mem_edgeTargets_of_noFallbackNodes h hf (mem_destinationNodes_of_mem_subFlows hsub))

/-- A task that stands in a flow is started by its edges. -/
theorem BuiltFrom.mem_edgeTargets_of_contains_graph {config : Configuration} {registry : Registry}
    (h : s.BuiltFrom config registry) (hstop : s.NoFallbackNodes) {name : String} (hf : s.flows.get? name = some f)
    (hx : f.graph.contains x = true) (htask : s.tasks.contains x = true) : x ∈ f.edgeTargets := by
  obtain ⟨e, he, hto | ⟨-, hfrom⟩⟩ := FlowGraph.mem_names_ofEdges_iff.1 (FlowGraph.contains_iff.1 hx)
  · exact Flow.mem_edgeTargets_iff.2 ⟨e, he, hto⟩
  · have hsource : x ∈ f.sourceNodes := Flow.mem_sourceNodes_iff.2 (Or.inl ⟨e, he, hfrom⟩)
    exact mem_edgeTargets_of_noFallbackNodes hstop hf (h.mem_destinationNodes_of_task hf hsource htask)

/-- Planned edges lead from the first flow of a search to every flow that it plans. -/
theorem Explores.reflTransGen_plansEdge (hstop : s.NoFallbackNodes) {seen : List String} {target : String}
    {tasks : List String} (h : s.Explores follow [] [⟨target, tasks⟩] seen left) :
    ∀ v ∈ left, (s.planAll follow runSubsequent left .empty).contains v.flow = true →
      Relation.ReflTransGen (s.PlansEdge (s.planAll follow runSubsequent left .empty)) target v.flow := by
  refine h.forall_left (fun v hv _ _ => ?_) fun before v after hsplit ih w hw hasks hplanned => ?_
  · rw [List.mem_singleton] at hv
    subst hv
    exact .refl
  · obtain ⟨-, f, hf, hsub⟩ := nests_of_mem_asks hasks
    have hedge : w.flow ∈ f.edgeTargets :=
      mem_edgeTargets_of_noFallbackNodes hstop hf (mem_destinationNodes_of_mem_subFlows hsub)
    have hv : v ∈ left := hsplit ▸ List.mem_append_right _ List.mem_cons_self
    have hwleft : w ∈ left := hsplit ▸ List.mem_append_left _ hw
    -- the asking flow takes part with the flow that it asked
    have hpart : s.TakesPart follow left v := .nested hsplit hw hf (List.mem_map_of_mem hasks)
      (Flow.contains_graph_of_mem_edgeTargets hedge) ((h.contains_planAll_flow_iff hwleft).1 hplanned)
    refine (ih ((h.contains_planAll_flow_iff hv).2 hpart)).tail ?_
    have hnodup := h.nodup
    subst hsplit
    exact plansEdge_of_mem_asks hnodup hf hw hasks hplanned hedge

/-- **Without fallback nodes a selective run reaches its tasks**: it has a plan, in which planned edges lead from flow
to flow to one whose planned edges start the task. A sub-flow that is asked for like a task, and that a flow only waits
for, has no edge into it; the flow that waits for it is reached and planned. -/
theorem selectivePlan_reaches_tasks {docs : Documents} {config : Configuration} {registry : Registry}
    (hconfig : docs.check.result = .ok config) (hs : (System.build config registry).result = .ok s)
    (hstop : ∀ f ∈ s.flows.values, ∀ r ∈ f.rules, r.fallback = .stopFlow) {target : String}
    (hf : s.flows.get? target = some f) {tasks : List String} (hne : tasks ≠ [])
    (hruns : ∀ task ∈ tasks, s.runsTask f task follow = true) (runSubsequent : Propagation) :
    ∃ plan, (s.selectivePlan target tasks runSubsequent follow).result = .ok plan ∧
      ∀ task ∈ tasks, ∃ flow g, s.flows.get? flow = some g ∧ plan.contains flow = true ∧
        Relation.ReflTransGen (s.PlansEdge plan) target flow ∧ g.graph.contains task = true ∧
        (s.tasks.contains task = true ∨ task ∈ g.edgeTargets → s.PlansEdge plan flow task) := by
  have hbuilt := builtFrom_of_build (Documents.accepted_of_check hconfig) hs
  have hnames : ∀ name f, s.flows.get? name = some f → f.name = name := fun _ _ => hbuilt.name_eq
  have hstop' : s.NoFallbackNodes := fun name f hf => hstop f (Dict.mem_values_iff.2 ⟨name, hf⟩)
  have hname := hnames target f hf
  subst hname
  obtain ⟨seen, left, hleft, hpart⟩ :=
    finds_of_runsTask hnames (fun _ => edgesStartSubFlows_of_noFallbackNodes hstop') hf hne hruns
  have hroot : (⟨f.name, tasks⟩ : Visit) ∈ left := hpart.mem
  refine ⟨_, selectivePlan_eq_ok_iff.2 ((planSelective_eq_ok_iff hnames).2
    ⟨⟨f, hf, hruns⟩, seen, left, hleft, hpart, rfl⟩), fun task htask => ?_⟩
  obtain ⟨w, hw, g, hg, hasked, hcontains⟩ := hleft.exists_asked hnames hroot hf htask (hruns task htask)
  have hplanned : (s.planAll follow runSubsequent left .empty).contains w.flow = true :=
    (hleft.contains_planAll_flow_iff hw).2 (.found hw hg hasked hcontains)
  refine ⟨w.flow, g, hg, hplanned, hleft.reflTransGen_plansEdge hstop' w hw hplanned, hcontains, fun hstarted => ?_⟩
  have hedge : task ∈ g.edgeTargets :=
    hstarted.elim (hbuilt.mem_edgeTargets_of_contains_graph hstop' hg hcontains) id
  have hnodup := hleft.nodup
  obtain ⟨before, after, rfl⟩ := List.append_of_mem hw
  exact plansEdge_of_mem_targetsOf hnodup hg (List.mem_append_left _ (List.mem_filter.2 ⟨hasked, hcontains⟩)) hedge

/-- Two flows that start each other. -/
theorem selectivePlan_reaches_tasks_recursive :
    let docs : Documents := {
      nodes := { flows := ["F", "G"], tasks := [{ name := "a", moduleName := "app.tasks" }] }
      flows := [⟨[
        { name := "F", edges := [{ sources := some [], targets := some ["G"] }] },
        { name := "G", edges := [{ sources := some [], targets := some ["F"] },
            { sources := some ["F"], targets := some ["a"] }] }]⟩] }
    let config : Configuration := ⟨docs.nodes, docs.definitions⟩
    docs.check.result = .ok config ∧ ∃ s plan, (System.build config {}).result = .ok s ∧
      (s.selectivePlan "F" ["a"] .off true).result = .ok plan ∧
      ∃ flow, Relation.ReflTransGen (s.PlansEdge plan) "F" flow ∧ s.PlansEdge plan flow "a" := by
  intro docs config
  have hconfig : docs.check.result = .ok config := rfl
  have hbuilds : ((System.build config {}).result.toOption.any fun s =>
      (s.flows.values.all fun f => f.rules.isEmpty) && s.tasks.contains "a" &&
        (s.flows.get? "F").any fun f => s.runsTask f "a" true) = true := by decide +kernel
  obtain ⟨s, hs, h⟩ := Except.toOption_any_iff.1 hbuilds
  simp only [Bool.and_eq_true, List.all_eq_true, List.isEmpty_iff, Option.any_eq_true] at h
  obtain ⟨⟨hrules, htask⟩, f, hf, hruns⟩ := h
  have hstop : ∀ f ∈ s.flows.values, ∀ r ∈ f.rules, r.fallback = .stopFlow := fun f hf r hr => by
    rw [hrules f hf] at hr
    cases hr
  obtain ⟨plan, hplan, hreaches⟩ := selectivePlan_reaches_tasks hconfig hs hstop hf (List.cons_ne_nil "a" [])
    (fun task htask => (List.mem_singleton.1 htask).symm ▸ hruns) .off
  obtain ⟨flow, _, -, -, hchain, -, hstarts⟩ := hreaches "a" List.mem_cons_self
  exact ⟨hconfig, s, plan, hs, hplan, flow, hchain, hstarts (Or.inl htask)⟩

/-! ## Flows that are planned -/

/-- Every visit of a search but the first is asked for by one that is left later, whose flow lacks a task. -/
theorem Explores.asked_of_ne {seen : List String} {target : String} {tasks : List String}
    (h : s.Explores follow [] [⟨target, tasks⟩] seen left) :
    ∀ w ∈ left, (∀ task ∈ w.tasks, task ∈ tasks) ∧ Relation.ReflTransGen s.Nests target w.flow ∧ (w.flow ≠ target →
      ∃ before v after f, left = before ++ v :: after ∧ w ∈ before ∧ w ∈ s.asks follow v ∧
        s.flows.get? v.flow = some f ∧ Relation.ReflTransGen s.Nests target v.flow ∧
        ∃ task ∈ tasks, f.graph.contains task = false) := by
  refine h.forall_left (fun v hv _ => ?_) fun before v after hsplit ih w hw hasks => ?_
  · rw [List.mem_singleton] at hv
    subst hv
    exact ⟨fun _ htask => htask, .refl, fun hne => absurd rfl hne⟩
  · obtain ⟨hin, hreach, -⟩ := ih
    obtain ⟨-, f, hf, -, htasks, hne⟩ := mem_asks_iff.1 hasks
    have hmissing : ∀ task ∈ w.tasks, task ∈ v.tasks ∧ f.graph.contains task = false := fun task htask => by
      rwa [htasks, List.mem_filter, Bool.not_eq_true'] at htask
    obtain ⟨task, htask⟩ := List.exists_mem_of_ne_nil _ hne
    exact ⟨fun task htask => hin task (hmissing task htask).1, hreach.tail (nests_of_mem_asks hasks).2, fun _ =>
      ⟨before, v, after, f, hsplit, hw, hasks, hf, hreach, task, hin task (hmissing task htask).1,
        (hmissing task htask).2⟩⟩

/-- **Planned flows are started by planned edges**, but for those that the search came to as fallbacks: a flow in the
plan of a selective run, other than the flow of the run, is a destination of a planned edge, or the run looks into
sub-flows, and one of the flows nested in that of the run lacks a task and has the flow as a fallback only. -/
theorem selectivePlan_starts_flows {docs : Documents} {config : Configuration} {registry : Registry}
    (hconfig : docs.check.result = .ok config) (hs : (System.build config registry).result = .ok s) {target : String}
    {tasks : List String} (hplan : (s.selectivePlan target tasks runSubsequent follow).result = .ok plan) :
    ∀ flow, plan.contains flow = true → flow ≠ target → (∃ parent, s.PlansEdge plan parent flow) ∨
      follow = true ∧ ∃ parent f, Relation.ReflTransGen s.Nests target parent ∧ s.flows.get? parent = some f ∧
        (∃ task ∈ tasks, f.graph.contains task = false) ∧ flow ∈ f.fallbackNodes ∧ flow ∉ f.edgeTargets := by
  have hbuilt := builtFrom_of_build (Documents.accepted_of_check hconfig) hs
  obtain ⟨-, seen, left, hleft, -, rfl⟩ :=
    (planSelective_eq_ok_iff fun _ _ => hbuilt.name_eq).1 (selectivePlan_eq_ok_iff.1 hplan)
  intro flow hplanned hne
  obtain ⟨w, hw, rfl, -⟩ := hleft.contains_planAll_iff.1 hplanned
  obtain ⟨before, v, after, f, hsplit, hbefore, hasks, hf, hreach, hlacks⟩ := (hleft.asked_of_ne w hw).2.2 hne
  by_cases hedge : w.flow ∈ f.edgeTargets
  · have hnodup := hleft.nodup
    subst hsplit
    exact Or.inl ⟨v.flow, plansEdge_of_mem_asks hnodup hf hbefore hasks hplanned hedge⟩
  · obtain ⟨hfollow, f', hf', hsub⟩ := nests_of_mem_asks hasks
    cases hf.symm.trans hf'
    have hstarted := Flow.mem_destinationNodes_iff.1 (mem_destinationNodes_of_mem_subFlows hsub)
    exact Or.inr ⟨hfollow, v.flow, f, hreach, hf, hlacks, hstarted.resolve_left hedge, hedge⟩

/-- A flow nested in another one. -/
theorem selectivePlan_starts_flows_nested :
    let docs : Documents := {
      nodes := { flows := ["F", "G"], tasks := [{ name := "a", moduleName := "app.tasks" }] }
      flows := [⟨[
        { name := "F", edges := [{ sources := some [], targets := some ["G"] }] },
        { name := "G", edges := [{ sources := some [], targets := some ["a"] }] }]⟩] }
    let config : Configuration := ⟨docs.nodes, docs.definitions⟩
    docs.check.result = .ok config ∧ ∃ s plan, (System.build config {}).result = .ok s ∧
      (s.selectivePlan "F" ["a"] .off true).result = .ok plan ∧ plan.contains "G" = true ∧
      ∃ parent, s.PlansEdge plan parent "G" := by
  intro docs config
  have hconfig : docs.check.result = .ok config := rfl
  have hbuilds : ((System.build config {}).result.toOption.any fun s =>
      (s.selectivePlan "F" ["a"] .off true).result.toOption.any fun plan =>
        plan.contains "G" && s.flows.values.all fun f => f.fallbackNodes == .empty) = true := by decide +kernel
  obtain ⟨s, hs, h⟩ := Except.toOption_any_iff.1 hbuilds
  obtain ⟨plan, hplan, h⟩ := Except.toOption_any_iff.1 h
  simp only [Bool.and_eq_true, List.all_eq_true, beq_iff_eq] at h
  obtain ⟨hplanned, hfallback⟩ := h
  refine ⟨hconfig, s, plan, hs, hplan, hplanned, ?_⟩
  rcases selectivePlan_starts_flows hconfig hs hplan "G" hplanned (by decide) with hedge | ⟨-, _, f, -, hf, -, hmem, -⟩
  · exact hedge
  · rw [hfallback f (Dict.mem_values_iff.2 ⟨_, hf⟩)] at hmem
    exact absurd hmem NameSet.notMem_empty

/-- The flow `F` starts `B` by an edge and `A` as a fallback only. Both are asked for the task and have it, so both are
planned, though no edge starts `A`. -/
theorem selectivePlan_plans_fallback :
    let docs : Documents := {
      nodes := { flows := ["F", "A", "B"], tasks := [{ name := "a", moduleName := "app.tasks" }] }
      flows := [⟨[
        { name := "F", edges := [{ sources := some [], targets := some ["B"] }]
          failures := [{ nodes := ["B"], fallback := .nodes ["A"] }] },
        { name := "A", edges := [{ sources := some [], targets := some ["a"] }] },
        { name := "B", edges := [{ sources := some [], targets := some ["a"] }] }]⟩] }
    let config : Configuration := ⟨docs.nodes, docs.definitions⟩
    docs.check.result = .ok config ∧ ∃ s plan, (System.build config {}).result = .ok s ∧
      (s.selectivePlan "F" ["a"] .off true).result = .ok plan ∧ plan.contains "A" = true ∧ "A" ≠ "F" ∧
      ¬∃ parent, s.PlansEdge plan parent "A" := by
  intro docs config
  have hconfig : docs.check.result = .ok config := rfl
  have hbuilds : ((System.build config {}).result.toOption.any fun s =>
      (s.selectivePlan "F" ["a"] .off true).result.toOption.any fun plan =>
        plan.contains "A" && plan.keys.all fun parent => !decide (s.PlansEdge plan parent "A")) = true := by
    decide +kernel
  obtain ⟨s, hs, h⟩ := Except.toOption_any_iff.1 hbuilds
  obtain ⟨plan, hplan, h⟩ := Except.toOption_any_iff.1 h
  simp only [Bool.and_eq_true, List.all_eq_true, Bool.not_eq_true', decide_eq_false_iff_not] at h
  refine ⟨hconfig, s, plan, hs, hplan, h.1, by decide, ?_⟩
  rintro ⟨parent, hedge⟩
  exact h.2 parent hedge.mem_keys hedge

end System

end TaskFlow
