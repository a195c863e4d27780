import TaskFlow.Proofs.Flow.Graph
import TaskFlow.Proofs.Log.Logged
import TaskFlow.Proofs.System.Search

/-!
# Planning follows the search

- `System.planAll`: the plan that visits give when they are left one after another; `contains_planAll_iff` says which
  flows it has, `get?_planAll` which edges a flow of a search has in it;
- `System.Advances st vs st'`: between two states of the plan lies a search of the visits, and the later plan is the
  earlier one with the visits left;
- `planFlow_advances`: planning a flow never fails, given depth enough for the flows not yet visited, and advances the
  state by the visit of the flow;
- `planSelective_eq_ok_iff`: a selective run has the plan of its search, if that has the flow of the run;
- `finds_of_runsTask`: it does wherever edges start every sub-flow and the flow runs the tasks.
-/

namespace TaskFlow

namespace System

variable {s : System} {follow : Bool} {runSubsequent : Propagation} {st st' st'' : PlanState}
  {vs ws left : List Visit} {v : Visit} {plan : Dict (List Nat)} {x : String}

/-! ## The plan of a search -/

/-- The nodes of a flow that are planned for a visit, given the flows planned so far. -/
def targetsOf (s : System) (follow : Bool) (plan : Dict (List Nat)) (f : Flow) (v : Visit) : List String :=
  v.tasks.filter f.graph.contains ++
    ((s.asks follow v).map Visit.flow).filter fun name => f.graph.contains name && plan.contains name

theorem takes_iff {f : Flow} {part : String → Prop} (hf : s.flows.get? v.flow = some f) :
    s.Takes follow part v ↔ (∃ task ∈ v.tasks, f.graph.contains task = true) ∨
      ∃ name ∈ (s.asks follow v).map Visit.flow, f.graph.contains name = true ∧ part name := by
  constructor
  · rintro ⟨f', hf', h⟩
    cases hf.symm.trans hf'
    exact h
  · intro h
    exact ⟨f, hf, h⟩

theorem targetsOf_eq_nil_iff {f : Flow} (hf : s.flows.get? v.flow = some f) :
    s.targetsOf follow plan f v = [] ↔ ¬s.Takes follow (fun name => plan.contains name = true) v := by
  rw [takes_iff hf, targetsOf, List.append_eq_nil_iff, List.filter_eq_nil_iff, List.filter_eq_nil_iff]
  simp only [Bool.and_eq_true]
  push Not
  simp

theorem contains_of_mem_targetsOf {f : Flow} {t : String} (h : t ∈ s.targetsOf follow plan f v) :
    f.graph.contains t = true := by
  rcases List.mem_append.1 h with h | h
  · exact (List.mem_filter.1 h).2
  · exact (Bool.and_eq_true_iff.1 (List.mem_filter.1 h).2).1

/-- The plan behind a visit: the edges of its flow are added where there is anything to plan. -/
def planVisit (s : System) (follow : Bool) (runSubsequent : Propagation) (plan : Dict (List Nat)) (v : Visit) :
    Dict (List Nat) :=
  match s.flows.get? v.flow with
  | none => plan
  | some f =>
    let targets := s.targetsOf follow plan f v
    if targets.isEmpty then plan
    else plan.insert v.flow (f.graph.plan f.edges (f.widen (runSubsequent.appliesTo v.flow) targets))

/-- The plan behind visits that are left one after another. -/
def planAll (s : System) (follow : Bool) (runSubsequent : Propagation) (left : List Visit) (plan : Dict (List Nat)) :
    Dict (List Nat) :=
  left.foldl (s.planVisit follow runSubsequent) plan

theorem planVisit_of_targetsOf_eq_nil {f : Flow} (hf : s.flows.get? v.flow = some f)
    (h : s.targetsOf follow plan f v = []) : s.planVisit follow runSubsequent plan v = plan := by
  simp only [planVisit, hf, h]
  rfl

theorem planVisit_of_targetsOf_ne_nil {f : Flow} (hf : s.flows.get? v.flow = some f)
    (h : s.targetsOf follow plan f v ≠ []) :
    s.planVisit follow runSubsequent plan v = plan.insert v.flow
      (f.graph.plan f.edges (f.widen (runSubsequent.appliesTo v.flow) (s.targetsOf follow plan f v))) := by
  simp only [planVisit, hf, List.isEmpty_eq_false_iff.2 h]
  rfl

theorem contains_planVisit_iff :
    (s.planVisit follow runSubsequent plan v).contains x = true ↔
      plan.contains x = true ∨ x = v.flow ∧ s.Takes follow (fun name => plan.contains name = true) v := by
  cases hf : s.flows.get? v.flow with
  | none =>
    have hno : ¬s.Takes follow (fun name => plan.contains name = true) v := fun ⟨f, hf', _⟩ => by
      rw [hf] at hf'
      cases hf'
    simp only [planVisit, hf]
    exact (or_iff_left fun h => hno h.2).symm
  | some f =>
    by_cases htargets : s.targetsOf follow plan f v = []
    · rw [planVisit_of_targetsOf_eq_nil hf htargets]
      rw [targetsOf_eq_nil_iff hf] at htargets
      exact (or_iff_left fun h => htargets h.2).symm
    · rw [planVisit_of_targetsOf_ne_nil hf htargets, Dict.contains_insert]
      rw [targetsOf_eq_nil_iff hf, not_not] at htargets
      rw [or_comm]
      exact or_congr_right (and_iff_left htargets).symm

/-- A visit plans no flow but its own. -/
theorem get?_planVisit_of_ne (h : x ≠ v.flow) : (s.planVisit follow runSubsequent plan v).get? x = plan.get? x := by
  unfold planVisit
  split
  · rfl
  · simp only
    split
    · rfl
    · rw [Dict.get?_insert, if_neg h]

/-- The flows of the plan are those that settling the visits finds. -/
theorem contains_planAll_iff :
    (s.planAll follow runSubsequent left plan).contains x = true ↔
      s.settleAll follow left (fun y => plan.contains y = true) x := by
  induction left generalizing plan with
  | nil => rfl
  | cons v vs ih =>
    have hstep : (fun y => (s.planVisit follow runSubsequent plan v).contains y = true) = fun y =>
        plan.contains y = true ∨ y = v.flow ∧ s.Takes follow (fun name => plan.contains name = true) v :=
      funext fun y => propext contains_planVisit_iff
    rw [settleAll, ← hstep]
    exact ih

theorem get?_planAll_of_notMem (h : x ∉ left.map Visit.flow) :
    (s.planAll follow runSubsequent left plan).get? x = plan.get? x := by
  induction left generalizing plan with
  | nil => rfl
  | cons v vs ih =>
    rw [List.map_cons, List.mem_cons, not_or] at h
    exact (ih h.2).trans (get?_planVisit_of_ne h.1)

theorem planAll_append (left left' : List Visit) (plan : Dict (List Nat)) :
    s.planAll follow runSubsequent (left ++ left') plan =
      s.planAll follow runSubsequent left' (s.planAll follow runSubsequent left plan) :=
  List.foldl_append

/-- A flow of a search has the edges that its visit plans when it is left. -/
theorem get?_planAll {before after : List Visit} (hnodup : ((before ++ v :: after).map Visit.flow).Nodup)
    (plan : Dict (List Nat)) :
    (s.planAll follow runSubsequent (before ++ v :: after) plan).get? v.flow =
      (s.planVisit follow runSubsequent (s.planAll follow runSubsequent before plan) v).get? v.flow := by
  rw [List.map_append, List.map_cons, List.nodup_append, List.nodup_cons] at hnodup
  rw [planAll_append]
  exact get?_planAll_of_notMem hnodup.2.1.1

/-! ## States of the plan -/

/-- Only flows that are visited are planned. -/
def PlanState.Sound (st : PlanState) : Prop := ∀ x, st.plan.contains x = true → x ∈ st.visited

theorem PlanState.sound_empty : PlanState.Sound {} := by
  intro x hx
  have hempty : (Dict.empty : Dict (List Nat)).contains x = true := hx
  simp at hempty

/-- The flows that are not yet visited. -/
def unvisited (s : System) (st : PlanState) : List String := s.flows.keys.filter fun name => !st.visited.contains name

/-- A search of the visits leads from one state to the other, and the visits give the plan as they are left. -/
def Advances (s : System) (follow : Bool) (runSubsequent : Propagation) (st : PlanState) (vs : List Visit)
    (st' : PlanState) : Prop :=
  ∃ left, s.Explores follow st.visited vs st'.visited left ∧ st'.plan = s.planAll follow runSubsequent left st.plan

namespace Advances

theorem refl (s : System) (follow : Bool) (runSubsequent : Propagation) (st : PlanState) :
    s.Advances follow runSubsequent st [] st := ⟨[], .done, rfl⟩

theorem append (h : s.Advances follow runSubsequent st vs st') (h' : s.Advances follow runSubsequent st' ws st'') :
    s.Advances follow runSubsequent st (vs ++ ws) st'' := by
  obtain ⟨left, hleft, hplan⟩ := h
  obtain ⟨left', hleft', hplan'⟩ := h'
  refine ⟨left ++ left', hleft.append hleft', ?_⟩
  rw [hplan', hplan, planAll_append]

theorem visited_subset (h : s.Advances follow runSubsequent st vs st') (hx : x ∈ st.visited) : x ∈ st'.visited := by
  obtain ⟨left, hleft, -⟩ := h
  exact hleft.mem_seen_iff.2 (Or.inl hx)

/-- What was visited before stays planned or not. -/
theorem contains_eq_of_visited (h : s.Advances follow runSubsequent st vs st') (hx : x ∈ st.visited) :
    st'.plan.contains x = st.plan.contains x := by
  obtain ⟨left, hleft, hplan⟩ := h
  rw [hplan, Dict.contains, get?_planAll_of_notMem fun hmem => hleft.notMem_seen hmem hx]
  rfl

theorem sound (h : s.Advances follow runSubsequent st vs st') (hst : st.Sound) : st'.Sound := by
  intro x hx
  obtain ⟨left, hleft, hplan⟩ := h
  by_cases hmem : x ∈ left.map Visit.flow
  · exact hleft.mem_seen_iff.2 (Or.inr hmem)
  · rw [hplan, Dict.contains, get?_planAll_of_notMem hmem] at hx
    exact hleft.mem_seen_iff.2 (Or.inl (hst x hx))

theorem mem_visited (h : s.Advances follow runSubsequent st vs st') (hv : v ∈ vs) : v.flow ∈ st'.visited := by
  obtain ⟨left, hleft, -⟩ := h
  exact hleft.mem_seen_of_mem hv

end Advances

theorem mem_unvisited_iff : x ∈ s.unvisited st ↔ x ∈ s.flows.keys ∧ x ∉ st.visited := by
  rw [unvisited, List.mem_filter, List.contains_eq_mem, Bool.not_eq_true', decide_eq_false_iff_not]

theorem unvisited_sublist (h : ∀ x ∈ st.visited, x ∈ st'.visited) : (s.unvisited st').Sublist (s.unvisited st) := by
  refine List.monotone_filter_right s.flows.keys fun x hx => ?_
  rw [Bool.not_eq_true', List.contains_eq_mem, decide_eq_false_iff_not] at hx ⊢
  exact fun hmem => hx (h x hmem)

/-- A flow visited is one flow fewer to visit. -/
theorem length_unvisited_lt {name : String} {f : Flow} (hf : s.flows.get? name = some f) (hnew : name ∉ st.visited) :
    (s.unvisited { st with visited := name :: st.visited }).length < (s.unvisited st).length := by
  have hsub : (s.unvisited { st with visited := name :: st.visited }).Sublist (s.unvisited st) :=
    unvisited_sublist fun x hx => List.mem_cons_of_mem _ hx
  refine Nat.lt_of_le_of_ne hsub.length_le fun hlength => ?_
  have hmem : name ∈ s.unvisited st := mem_unvisited_iff.2 ⟨Dict.mem_keys_iff.2 ⟨f, hf⟩, hnew⟩
  rw [← hsub.eq_of_length hlength, mem_unvisited_iff] at hmem
  exact hmem.2 List.mem_cons_self

/-! ## One flow and its sub-flows -/

/-- Planning with a given depth advances the state by one visit for the tasks, and says whether its flow is planned. -/
def PlansVisits (s : System) (follow : Bool) (runSubsequent : Propagation) (tasks : List String) (depth : Nat)
    (planFlow : PlanFlow) : Prop :=
  ∀ name f st, s.flows.get? name = some f → st.Sound → (s.unvisited st).length < depth →
    ∃ st', planFlow f st = .ok (st'.plan.contains name, st') ∧ s.Advances follow runSubsequent st [⟨name, tasks⟩] st'

/-- The sub-flows advance the state by their visits, and those are kept that are planned and started by an edge. -/
theorem planSubFlows_advances {planFlow : PlanFlow} {f : Flow} {tasks names : List String} {depth : Nat}
    (hplan : s.PlansVisits follow runSubsequent tasks depth planFlow)
    (hnames : ∀ name ∈ names, s.flows.contains name = true) (hst : st.Sound)
    (hdepth : (s.unvisited st).length < depth) :
    ∃ st', s.planSubFlows planFlow f names st =
        .ok (names.filter fun name => f.graph.contains name && st'.plan.contains name, st') ∧
      s.Advances follow runSubsequent st (names.map fun name => ⟨name, tasks⟩) st' := by
  induction names generalizing st with
  | nil => exact ⟨st, rfl, .refl s follow runSubsequent st⟩
  | cons name names ih =>
    obtain ⟨sub, hsub⟩ := Dict.contains_iff.1 (hnames name List.mem_cons_self)
    obtain ⟨st₁, hfirst, hvisit⟩ := hplan name sub st hsub hst hdepth
    have hdepth₁ : (s.unvisited st₁).length < depth :=
      Nat.lt_of_le_of_lt (unvisited_sublist fun x hx => hvisit.visited_subset hx).length_le hdepth
    obtain ⟨st₂, hrest, hvisits⟩ :=
      ih (fun n hn => hnames n (List.mem_cons_of_mem _ hn)) (hvisit.sound hst) hdepth₁
    have hmem : name ∈ st₁.visited := hvisit.mem_visited (v := ⟨name, tasks⟩) List.mem_cons_self
    refine ⟨st₂, ?_, hvisit.append hvisits⟩
    rw [planSubFlows, hsub]
    show (planFlow sub st >>= _) = _
    rw [hfirst]
    show (planSubFlows s planFlow f names st₁ >>= _) = _
    rw [hrest, List.filter_cons, hvisits.contains_eq_of_visited hmem, Bool.and_comm]
    rfl

/-- The state behind a flow whose sub-flows are done: it is planned where there is anything to plan. -/
def leave (s : System) (follow : Bool) (runSubsequent : Propagation) (f : Flow) (v : Visit) (st : PlanState) :
    Except ConfigError (Bool × PlanState) :=
  let targets := s.targetsOf follow st.plan f v
  if targets.isEmpty then .ok (false, st)
  else do
    let edges ← (f.selectiveEdges targets (runSubsequent.appliesTo f.name)).mapError (.flow f.name)
    return (true, { st with plan := st.plan.insert f.name edges })

/-- A flow that is not planned yet is left with the plan of its visit. -/
theorem leave_eq_ok {f : Flow} (hf : s.flows.get? v.flow = some f) (hname : f.name = v.flow)
    (hnew : st.plan.contains v.flow = false) :
    s.leave follow runSubsequent f v st = .ok ((s.planVisit follow runSubsequent st.plan v).contains v.flow,
      { st with plan := s.planVisit follow runSubsequent st.plan v }) := by
  unfold leave
  by_cases htargets : s.targetsOf follow st.plan f v = []
  · rw [planVisit_of_targetsOf_eq_nil hf htargets, hnew, htargets]
    rfl
  · have hedges := Flow.selectiveEdges_eq_ok
      (fun t (ht : t ∈ s.targetsOf follow st.plan f v) => contains_of_mem_targetsOf ht) (runSubsequent.appliesTo f.name)
    rw [hname] at hedges
    rw [planVisit_of_targetsOf_ne_nil hf htargets, Dict.contains_insert.2 (Or.inl rfl)]
    simp only [List.isEmpty_eq_false_iff.2 htargets, hname, hedges]
    rfl

/-- The sub-flows asked by a visit, planned with the depth that is left. -/
def planAsked (s : System) (follow : Bool) (runSubsequent : Propagation) (depth : Nat) (tasks : List String) (f : Flow)
    (st : PlanState) : Except ConfigError (List String × PlanState) :=
  let missing := tasks.filter fun task => !f.graph.contains task
  if follow && !missing.isEmpty then
    s.planSubFlows (s.planFlow runSubsequent true depth missing) f (s.subFlows f).names st
  else .ok ([], st)

/-- A flow that is new asks its sub-flows and is left. -/
theorem planFlow_of_new {depth : Nat} {tasks : List String} {f : Flow} (hnew : f.name ∉ st.visited) {st₂ : PlanState}
    {subTargets : List String}
    (hasked : s.planAsked follow runSubsequent depth tasks f { st with visited := f.name :: st.visited } =
      .ok (subTargets, st₂))
    (htargets : subTargets = ((s.asks follow ⟨f.name, tasks⟩).map Visit.flow).filter fun name =>
      f.graph.contains name && st₂.plan.contains name) :
    s.planFlow runSubsequent follow (depth + 1) tasks f st = s.leave follow runSubsequent f ⟨f.name, tasks⟩ st₂ := by
  rw [planFlow, if_neg (fun h => hnew (List.contains_iff_mem.1 h))]
  simp only [leave, targetsOf, ← htargets]
  simp only [planAsked] at hasked
  split at hasked
  · rename_i hasks
    rw [if_pos hasks, hasked]
    rfl
  · rename_i hasks
    cases hasked
    rw [if_neg hasks]
    rfl

/-- The sub-flows asked by a visit advance the state by their visits. -/
theorem planAsked_advances {depth : Nat} {tasks : List String} {f : Flow}
    (hplan : ∀ tasks, s.PlansVisits true runSubsequent tasks depth (s.planFlow runSubsequent true depth tasks))
    (hf : s.flows.get? f.name = some f) (hst : st.Sound) (hdepth : (s.unvisited st).length < depth) :
    ∃ st', s.planAsked follow runSubsequent depth tasks f st =
        .ok (((s.asks follow ⟨f.name, tasks⟩).map Visit.flow).filter fun name =>
          f.graph.contains name && st'.plan.contains name, st') ∧
      s.Advances follow runSubsequent st (s.asks follow ⟨f.name, tasks⟩) st' := by
  simp only [planAsked, asks, hf]
  cases follow with
  | false => exact ⟨st, rfl, .refl s false runSubsequent st⟩
  | true =>
    split
    · have hnames : ∀ name ∈ (s.subFlows f).names, s.flows.contains name = true := fun name hname =>
        (NameSet.mem_filter.1 hname).2
      obtain ⟨st', hasked, hvisits⟩ := planSubFlows_advances (f := f) (hplan _) hnames hst hdepth
      refine ⟨st', ?_, hvisits⟩
      rw [hasked, List.map_map]
      show _ = Except.ok ((((s.subFlows f).names.map id).filter _), st')
      rw [List.map_id]
    · exact ⟨st, rfl, .refl s true runSubsequent st⟩

/-- Planning a flow never fails and advances the state by its visit. -/
theorem planFlow_advances (hnames : ∀ name f, s.flows.get? name = some f → f.name = name) (runSubsequent : Propagation)
    (tasks : List String) (depth : Nat) :
    s.PlansVisits follow runSubsequent tasks depth (s.planFlow runSubsequent follow depth tasks) := by
  induction depth generalizing follow tasks with
  | zero => exact fun _ _ _ _ _ h => absurd h (Nat.not_lt_zero _)
  | succ depth ih =>
    intro name f st hf hst hdepth
    have hname := hnames name f hf
    subst hname
    by_cases hvisited : f.name ∈ st.visited
    · refine ⟨st, ?_, [], .known hvisited .done, rfl⟩
      rw [planFlow, if_pos (List.contains_iff_mem.2 hvisited)]
    · have hdepth' : (s.unvisited { st with visited := f.name :: st.visited }).length < depth :=
        Nat.lt_of_lt_of_le (length_unvisited_lt hf hvisited) (Nat.le_of_lt_succ hdepth)
      have hst' : PlanState.Sound { st with visited := f.name :: st.visited } := fun x hx =>
        List.mem_cons_of_mem _ (hst x hx)
      obtain ⟨st₂, hasked, hvisits⟩ := planAsked_advances ih hf hst' hdepth'
      have hplan : s.planFlow runSubsequent follow (depth + 1) tasks f st =
          s.leave follow runSubsequent f ⟨f.name, tasks⟩ st₂ := planFlow_of_new hvisited hasked rfl
      have hnew : st₂.plan.contains f.name = false := by
        rw [hvisits.contains_eq_of_visited List.mem_cons_self, Bool.eq_false_iff]
        exact fun h => hvisited (hst _ h)
      obtain ⟨left, hleft, hplanned⟩ := hvisits
      refine ⟨{ st₂ with plan := s.planVisit follow runSubsequent st₂.plan ⟨f.name, tasks⟩ },
        hplan.trans (leave_eq_ok hf rfl hnew), left ++ [⟨f.name, tasks⟩], ?_, ?_⟩
      · exact .enter hvisited hleft .done
      · rw [planAll_append, ← hplanned]
        rfl

/-! ## A whole run -/

/-- A search from one visit leaves it last. -/
theorem Explores.eq_concat {seen : List String} (h : s.Explores follow [] [v] seen left) :
    ∃ before, left = before ++ [v] := by
  cases h with
  | known hseen _ => cases hseen
  | enter _ _ hrest =>
    cases hrest
    exact ⟨_, rfl⟩

/-- Planning some tasks of a flow gives the plan of their search. -/
theorem exists_explores_planFlow (hnames : ∀ name f, s.flows.get? name = some f → f.name = name) {target : String}
    {f : Flow} (hf : s.flows.get? target = some f) (runSubsequent : Propagation) (follow : Bool) (tasks : List String) :
    ∃ seen left st, s.Explores follow [] [⟨target, tasks⟩] seen left ∧
      s.planFlow runSubsequent follow (s.flows.size + 1) tasks f {} = .ok (st.plan.contains target, st) ∧
      st.plan = s.planAll follow runSubsequent left .empty := by
  have hdepth : (s.unvisited {}).length < s.flows.size + 1 := by
    have hlength : (s.unvisited {}).length ≤ s.flows.keys.length := List.length_filter_le _ _
    rw [Dict.keys, List.length_map] at hlength
    exact Nat.lt_succ_of_le hlength
  obtain ⟨st, hplan, left, hleft, hplanned⟩ :=
    planFlow_advances hnames runSubsequent tasks _ target f {} hf PlanState.sound_empty hdepth
  exact ⟨st.visited, left, st, hleft, hplan, hplanned⟩

/-- The flows in the plan of a search are those whose visits take part. -/
theorem Explores.contains_planAll_iff {seen : List String} (h : s.Explores follow [] vs seen left) :
    (s.planAll follow runSubsequent left .empty).contains x = true ↔
      ∃ v ∈ left, v.flow = x ∧ s.TakesPart follow left v := by
  have hempty : (fun y => (Dict.empty : Dict (List Nat)).contains y = true) = fun _ => False :=
    funext fun y => by simp
  rw [System.contains_planAll_iff, hempty, settleAll_iff_takesPart h.nodup]

/-- A flow that is left is in the plan of the search just if its visit takes part. -/
theorem Explores.contains_planAll_flow_iff {seen : List String} (h : s.Explores follow [] vs seen left)
    (hv : v ∈ left) :
    (s.planAll follow runSubsequent left .empty).contains v.flow = true ↔ s.TakesPart follow left v := by
  rw [h.contains_planAll_iff]
  constructor
  · rintro ⟨w, hw, hflow, hpart⟩
    cases List.inj_on_of_nodup_map h.nodup hw hv hflow
    exact hpart
  · exact fun hpart => ⟨v, hv, rfl, hpart⟩

/-- **A selective run has the plan of its search**, provided that its flow runs the tasks and takes part. -/
theorem planSelective_eq_ok_iff (hnames : ∀ name f, s.flows.get? name = some f → f.name = name) {target : String}
    {tasks : List String} :
    s.planSelective target tasks runSubsequent follow = .ok plan ↔
      (∃ f, s.flows.get? target = some f ∧ ∀ task ∈ tasks, s.runsTask f task follow = true) ∧
      ∃ seen left, s.Explores follow [] [⟨target, tasks⟩] seen left ∧ s.TakesPart follow left ⟨target, tasks⟩ ∧
        plan = s.planAll follow runSubsequent left .empty := by
  cases hf : s.flows.get? target with
  | none =>
    simp only [planSelective, hf]
    exact ⟨nofun, fun ⟨⟨_, h, _⟩, _⟩ => nomatch h⟩
  | some f =>
    obtain ⟨seen, left, st, hleft, hplan, hplanned⟩ := exists_explores_planFlow hnames hf runSubsequent follow tasks
    obtain ⟨before, hbefore⟩ := hleft.eq_concat
    have hroot : (⟨target, tasks⟩ : Visit) ∈ left := hbefore ▸ List.mem_append_right _ List.mem_cons_self
    have hpart : st.plan.contains target = true ↔ s.TakesPart follow left ⟨target, tasks⟩ := by
      rw [hplanned]
      exact hleft.contains_planAll_flow_iff hroot
    simp only [planSelective, hf]
    cases hfind : tasks.find? fun task => !s.runsTask f task follow with
    | some task =>
      have hno : s.runsTask f task follow = false := by simpa using List.find?_some hfind
      refine ⟨nofun, fun ⟨⟨g, hg, hruns⟩, _⟩ => ?_⟩
      cases hg
      rw [hruns task (List.mem_of_find?_eq_some hfind)] at hno
      cases hno
    | none =>
      have hruns : ∀ task ∈ tasks, s.runsTask f task follow = true := fun task htask => by
        simpa using List.find?_eq_none.1 hfind task htask
      simp only [hplan]
      show (if st.plan.contains target then Except.ok st.plan else _) = _ ↔ _
      constructor
      · intro h
        split at h
        · rename_i hcontains
          cases h
          exact ⟨⟨f, rfl, hruns⟩, seen, left, hleft, hpart.1 hcontains, hplanned⟩
        · cases h
      · rintro ⟨-, seen', left', hleft', hpart', rfl⟩
        obtain ⟨rfl, rfl⟩ := hleft.unique hleft'
        rw [if_pos (hpart.2 hpart'), hplanned]

/-- Reporting a plan does not change it. -/
theorem selectivePlan_eq_ok_iff {target : String} {tasks : List String} :
    (s.selectivePlan target tasks runSubsequent follow).result = .ok plan ↔
      s.planSelective target tasks runSubsequent follow = .ok plan := by
  constructor
  · intro h
    obtain ⟨plan', hplan', h⟩ := Logged.result_bind_eq_ok_iff.1 h
    cases h
    exact hplan'
  · intro h
    exact Logged.result_bind_eq_ok_iff.2 ⟨plan, h, rfl⟩

/-- The search for some tasks of a flow finds one of them, on a chain of nested flows that their edges start. -/
def Finds (s : System) (follow : Bool) (target : String) (tasks : List String) : Prop :=
  ∃ seen left, s.Explores follow [] [⟨target, tasks⟩] seen left ∧ s.TakesPart follow left ⟨target, tasks⟩

/-! ## Runs that edges start -/

theorem startsTask_iff {task name : String} :
    s.startsTask task name = true ↔ ∃ f, s.flows.get? name = some f ∧ f.graph.contains task = true := by
  unfold startsTask
  cases s.flows.get? name with
  | none => simp
  | some f => simp

theorem mem_startedFlows_iff {name sub : String} :
    sub ∈ s.startedFlows name ↔
      ∃ f, s.flows.get? name = some f ∧ sub ∈ s.subFlows f ∧ f.graph.contains sub = true := by
  unfold startedFlows
  cases s.flows.get? name with
  | none => simp
  | some f =>
    simp only [Option.some.injEq, exists_eq_left']
    exact List.mem_filter

/-- A flow runs a task just if the task stands in its graph or, if sub-flows are followed, in that of a flow to which
started flows lead. -/
theorem runsTask_iff_reflTransGen {f : Flow} {task : String} (hf : s.flows.get? f.name = some f) :
    s.runsTask f task follow = true ↔
      ∃ name g, s.flows.get? name = some g ∧ g.graph.contains task = true ∧
        (name = f.name ∨ follow = true ∧ Relation.ReflTransGen (fun x y => y ∈ s.startedFlows x) f.name name) := by
  have hclosed : ∀ x ∈ s.flows.keys, ∀ y ∈ s.startedFlows x, y ∈ s.flows.keys := fun _ _ y hy => by
    obtain ⟨_, -, hsub, -⟩ := mem_startedFlows_iff.1 hy
    exact Dict.mem_keys_iff_contains.2 (NameSet.mem_filter.1 hsub).2
  have hroot : ∀ x ∈ [f.name], x ∈ s.flows.keys := fun x hx =>
    (List.mem_singleton.1 hx).symm ▸ Dict.mem_keys_iff.2 ⟨f, hf⟩
  rw [runsTask, Bool.or_eq_true, Bool.and_eq_true, List.any_eq_true]
  simp only [mem_gather_iff_of_closed hclosed hroot, List.mem_singleton, exists_eq_left, startsTask_iff]
  constructor
  · rintro (hcontains | ⟨hfollow, name, hpath, g, hg, hcontains⟩)
    · exact ⟨f.name, f, hf, hcontains, Or.inl rfl⟩
    · exact ⟨name, g, hg, hcontains, Or.inr ⟨hfollow, hpath⟩⟩
  · rintro ⟨name, g, hg, hcontains, rfl | ⟨hfollow, hpath⟩⟩
    · cases hf.symm.trans hg
      exact Or.inl hcontains
    · exact Or.inr ⟨hfollow, name, hpath, g, hg, hcontains⟩

/-- Where edges start every sub-flow, a search that does not let its first visit take part lets none take part, since
whatever takes part lets the first visit do so too. -/
theorem Explores.lacks_of_not_takesPart (hstart : follow = true → s.EdgesStartSubFlows) {seen : List String}
    {left : List Visit} {v : Visit} (h : s.Explores follow [] [v] seen left) (hv : v ∈ left)
    (hroot : ¬s.TakesPart follow left v) : s.Lacks left := by
  have hnone : ∀ x, ¬s.settleAll follow left (fun _ => False) x := by
    intro x hx
    refine h.part_of_settleAll hstart (fun _ => False) (fun u hu hsettled => ?_) hx
    rw [List.mem_singleton] at hu
    subst hu
    obtain ⟨w, hw, hflow, hpart⟩ := (settleAll_iff_takesPart h.nodup).1 hsettled
    have heq : w = u := List.inj_on_of_nodup_map h.nodup hw hv hflow
    exact hroot (heq ▸ hpart)
  intro u hu g hg task htask
  rw [Bool.eq_false_iff]
  intro hcontains
  exact hnone u.flow ((settleAll_iff_takesPart h.nodup).2 ⟨u, hu, rfl, .found hu hg htask hcontains⟩)

/-- **A search passes over no task**: a flow that runs a task lets its search ask some flow for the task that has it. -/
theorem Explores.exists_asked (hnames : ∀ name f, s.flows.get? name = some f → f.name = name) {seen : List String}
    (h : s.Explores follow [] [v] seen left) (hv : v ∈ left) {f : Flow} (hf : s.flows.get? v.flow = some f)
    {task : String} (htask : task ∈ v.tasks) (hruns : s.runsTask f task follow = true) :
    ∃ w ∈ left, ∃ g, s.flows.get? w.flow = some g ∧ task ∈ w.tasks ∧ g.graph.contains task = true := by
  have hname := hnames _ f hf
  obtain ⟨name, g, hg, hcontains, hreach⟩ := (runsTask_iff_reflTransGen (hname ▸ hf)).1 hruns
  rcases hreach with rfl | ⟨rfl, hpath⟩
  · rw [hname] at hg
    exact ⟨v, hv, g, hg, htask, hcontains⟩
  · by_contra hnone
    push Not at hnone
    have hlacks : ∀ w ∈ left, task ∈ w.tasks → ∀ g, s.flows.get? w.flow = some g → g.graph.contains task = false :=
      fun w hw hask g hg => Bool.eq_false_iff.2 (hnone w hw g hg hask)
    have hall := h.asks_everywhere (fun u hu => (List.mem_singleton.1 hu).symm ▸ htask) hlacks
    -- every flow that started flows lead to is visited, that with the task included
    have hvisited : ∃ w ∈ left, w.flow = name := by
      clear hg
      induction hpath with
      | refl => exact ⟨v, hv, hname.symm⟩
      | tail _ hstep ih =>
        obtain ⟨w, hw, rfl⟩ := ih
        obtain ⟨f', hf', hsub, -⟩ := mem_startedFlows_iff.1 hstep
        have hseen := h.mem_seen_iff.1 ((hall w hw).2 f' hf' _ hsub)
        exact List.mem_map.1 (hseen.resolve_left List.not_mem_nil)
    obtain ⟨w, hw, rfl⟩ := hvisited
    exact hnone w hw g hg (hall w hw).1 hcontains

/-- A flow that runs a task is the flow of a search that finds one, where edges start every sub-flow. -/
theorem finds_of_runsTask (hnames : ∀ name f, s.flows.get? name = some f → f.name = name)
    (hstart : follow = true → s.EdgesStartSubFlows) {f : Flow} (hf : s.flows.get? f.name = some f) {tasks : List String}
    (hne : tasks ≠ []) (hruns : ∀ task ∈ tasks, s.runsTask f task follow = true) : s.Finds follow f.name tasks := by
  obtain ⟨seen, left, -, hleft, -⟩ := exists_explores_planFlow hnames hf .off follow tasks
  by_contra hfinds
  obtain ⟨before, hbefore⟩ := hleft.eq_concat
  have hroot : (⟨f.name, tasks⟩ : Visit) ∈ left := hbefore ▸ List.mem_append_right _ List.mem_cons_self
  have hlacks : s.Lacks left :=
    hleft.lacks_of_not_takesPart hstart hroot fun hpart => hfinds ⟨seen, left, hleft, hpart⟩
  obtain ⟨task, htask⟩ := List.exists_mem_of_ne_nil tasks hne
  obtain ⟨w, hw, g, hg, hasked, hcontains⟩ := hleft.exists_asked hnames hroot hf htask (hruns task htask)
  have hfalse := hlacks w hw g hg task hasked
  rw [hcontains] at hfalse
  cases hfalse

end System

end TaskFlow
