import TaskFlow.Proofs.Flow.Graph
import TaskFlow.Proofs.System.Build

/-!
# What the checks of a flow ask for

One lemma for each check, of the form "it passes just if": on an edge alone (`Edge.check_eq_ok_iff`), on a flow alone
(`Flow.checkStart_eq_ok_iff` to `Flow.checkRule_eq_ok_iff`), and on a flow among the others
(`System.checkPropagation_eq_ok_iff`, `System.checkSelectiveEdge_eq_ok_iff`).
-/

namespace TaskFlow

/-! ## Edges -/

namespace Edge

variable {s : Scope} {nodeArgs : Propagation} {e : Edge}

theorem checkDistinct_eq_ok_iff {side : EdgeEnd} {names : List String} :
    checkDistinct side names = .ok () ↔ names.Nodup := by
  have hrepeated : NameSet.repeated? [] names = none ↔ names.Nodup := by
    rw [NameSet.repeated?_eq_none_iff]
    exact and_iff_left fun x _ => List.not_mem_nil
  unfold checkDistinct
  split
  · rename_i node hnode
    exact iff_of_false nofun fun h => by
      rw [hrepeated.2 h] at hnode
      cases hnode
  · rename_i hnone
    exact iff_of_true rfl (hrepeated.1 hnone)

theorem checkForeachTarget_eq_ok_iff {f : FunctionRef} {target : String} :
    checkForeachTarget s nodeArgs f target = .ok () ↔
      s.kind? target = some .flow ∧ nodeArgs.appliesTo target = false := by
  unfold checkForeachTarget
  by_cases hkind : s.kind? target = some .flow
  · cases hargs : nodeArgs.appliesTo target <;> simp [hkind]
  · simp [hkind]

/-- What a fan-out hands on goes to flows that get no other arguments. -/
theorem checkForeach_eq_ok_iff :
    checkForeach s nodeArgs e = .ok () ↔
      ∀ f, e.foreach = some f → f.propagateResult = true →
        ∀ x ∈ e.targets, s.kind? x = some .flow ∧ nodeArgs.appliesTo x = false := by
  unfold checkForeach
  cases hforeach : e.foreach with
  | none => exact iff_of_true rfl nofun
  | some f =>
    cases hpropagates : f.propagateResult with
    | false =>
      refine iff_of_true (if_neg (by simp [hpropagates])) fun g hg htrue => ?_
      cases hg
      rw [hpropagates] at htrue
      cases htrue
    | true =>
      simp only [hpropagates, if_true, Except.forM_eq_ok_iff, checkForeachTarget_eq_ok_iff]
      constructor
      · intro h g _ _
        exact h
      · intro h
        exact h f rfl hpropagates

/-- A selective run leads to a single flow. -/
theorem checkSelective_eq_ok_iff :
    checkSelective s e = .ok () ↔
      ∀ sel, e.selective = some sel → ∃ target, e.targets = [target] ∧ s.kind? target = some .flow := by
  unfold checkSelective
  split
  · rename_i hnone
    exact iff_of_true rfl fun sel hsel => by
      rw [hnone] at hsel
      cases hsel
  · rename_i sel target hsel htargets
    rw [hsel, htargets]
    split
    · rename_i hkind
      exact iff_of_true rfl fun _ _ => ⟨target, rfl, hkind⟩
    · rename_i hkind
      refine iff_of_false nofun fun h => ?_
      obtain ⟨target', heq, hflow⟩ := h sel rfl
      cases heq
      exact hkind hflow
  · rename_i sel hsel hseveral
    refine iff_of_false nofun fun h => ?_
    obtain ⟨target, htargets, -⟩ := h sel hsel
    exact hseveral target htargets

theorem check_eq_ok_iff :
    check s nodeArgs e = .ok () ↔
      e.sources.Nodup ∧ e.targets.Nodup ∧ checkForeach s nodeArgs e = .ok () ∧ checkSelective s e = .ok () := by
  constructor
  · intro h
    obtain ⟨_, hsources, h⟩ := Except.bind_eq_ok_iff.1 h
    obtain ⟨_, htargets, h⟩ := Except.bind_eq_ok_iff.1 h
    obtain ⟨_, hforeach, hselective⟩ := Except.bind_eq_ok_iff.1 h
    exact ⟨checkDistinct_eq_ok_iff.1 hsources, checkDistinct_eq_ok_iff.1 htargets, hforeach, hselective⟩
  · rintro ⟨hsources, htargets, hforeach, hselective⟩
    refine Except.bind_eq_ok_iff.2 ⟨(), checkDistinct_eq_ok_iff.2 hsources, ?_⟩
    refine Except.bind_eq_ok_iff.2 ⟨(), checkDistinct_eq_ok_iff.2 htargets, ?_⟩
    exact Except.bind_eq_ok_iff.2 ⟨(), hforeach, hselective⟩

end Edge

/-! ## Flows -/

namespace Flow

variable {f : Flow}

/-- A flow starts somewhere, and at a single node where its arguments come out of a result. -/
theorem checkStart_eq_ok_iff :
    f.checkStart = .ok () ↔
      f.startingEdges ≠ [] ∧ (f.nodeArgsFromFirst = true → ∃ e, f.startingEdges = [e] ∧ e.targets.length = 1) := by
  unfold checkStart
  cases hfirst : f.nodeArgsFromFirst with
  | false => cases f.startingEdges <;> simp
  | true =>
    cases f.startingEdges with
    | nil => simp
    | cons e es =>
      cases es with
      | nil => by_cases hone : e.targets.length = 1 <;> simp [hone]
      | cons e' es => simp

theorem checkDuplicates_eq_ok_iff {seen : List (NameSet × NameSet)} {edges : List Edge} :
    checkDuplicates seen edges = .ok () ↔
      (edges.map fun e => (NameSet.ofList e.sources, NameSet.ofList e.targets)).Nodup ∧
        ∀ ends ∈ edges.map fun e => (NameSet.ofList e.sources, NameSet.ofList e.targets), ends ∉ seen := by
  induction edges generalizing seen with
  | nil => simp [checkDuplicates]
  | cons e es ih =>
    rw [checkDuplicates, Except.ite_error_eq_ok_iff, ih, List.map_cons, nodup_cons_unseen_iff, List.contains_iff_mem]

theorem checkNowait_eq_ok_iff :
    f.checkNowait = .ok () ↔ ∀ x ∈ f.nowait, x ∈ f.destinationNodes ∧ x ∉ f.sourceNodes := by
  rw [checkNowait, Except.forM_eq_ok_iff]
  refine forall₂_congr fun x _ => ?_
  rw [Except.ite_error_eq_ok_iff, Except.ite_error_eq_ok_iff]
  simp

theorem checkEagerFailures_eq_ok_iff :
    f.checkEagerFailures = .ok () ↔
      ∀ x ∈ f.eagerFailures, x ∈ f.usedNodes ∧ x ∉ f.nowait ∧ ∀ r ∈ f.rules, x ∉ r.nodes := by
  rw [checkEagerFailures, Except.forM_eq_ok_iff]
  refine forall₂_congr fun x _ => ?_
  rw [Except.ite_error_eq_ok_iff, Except.ite_error_eq_ok_iff, Except.ite_error_eq_ok_iff]
  simp

/-- The nodes of a rule are started, and its fallback starts none twice. -/
theorem checkRule_eq_ok_iff {r : FailureRule} :
    f.checkRule r = .ok () ↔ (∀ x ∈ r.nodes, x ∈ f.destinationNodes) ∧ r.fallback.started.Nodup := by
  have hstarted : (r.nodes.find? fun x => !(f.edgeTargets.contains x || f.fallbackNodes.contains x)) = none ↔
      ∀ x ∈ r.nodes, x ∈ f.destinationNodes := by
    simp [List.find?_eq_none, mem_destinationNodes_iff, or_iff_not_imp_left]
  have hrepeated : NameSet.repeated? [] r.fallback.started = none ↔ r.fallback.started.Nodup := by
    simp [NameSet.repeated?_eq_none_iff]
  rw [← hstarted, ← hrepeated, checkRule]
  cases r.nodes.find? fun x => !(f.edgeTargets.contains x || f.fallbackNodes.contains x) with
  | some x => exact iff_of_false nofun fun h => nomatch h.1
  | none =>
    cases NameSet.repeated? [] r.fallback.started with
    | some x => exact iff_of_false nofun fun h => nomatch h.2
    | none => exact iff_of_true rfl ⟨rfl, rfl⟩

theorem checkSubFlow_eq_ok_iff {sub : String} :
    f.checkSubFlow sub = .ok () ↔
      ¬(f.propagation.finished.appliesTo sub = true ∧ f.propagation.compoundFinished.appliesTo sub = true) ∧
      ¬(f.propagation.failures.appliesTo sub = true ∧ f.propagation.compoundFailures.appliesTo sub = true) := by
  rw [checkSubFlow, Except.ite_error_eq_ok_iff, Except.ite_error_eq_ok_iff, Bool.and_eq_true, Bool.and_eq_true]
  exact and_congr_right fun _ => and_iff_left rfl

end Flow

/-! ## Flows among the others -/

namespace System

variable {s : System} {f : Flow}

theorem mem_subFlows_iff {x : String} : x ∈ s.subFlows f ↔ x ∈ f.destinationNodes ∧ s.flows.contains x = true :=
  NameSet.mem_filter

theorem checkFlag_eq_ok_iff {flag : String × Propagation} :
    (s.checkFlag f flag).result = .ok () ↔ ∀ x ∈ flag.2.named, x ∈ s.subFlows f := by
  have hnamed : (flag.2.named.find? fun x => !(s.subFlows f).contains x) = none ↔
      ∀ x ∈ flag.2.named, x ∈ s.subFlows f := by
    simp [List.find?_eq_none]
  rw [← hnamed, checkFlag]
  cases flag.2.named.find? fun x => !(s.subFlows f).contains x with
  | some x => exact iff_of_false nofun nofun
  | none => exact iff_of_true rfl rfl

/-- Flags name sub-flows only, and no sub-flow gets one outcome in two ways. -/
theorem checkPropagation_eq_ok_iff :
    (s.checkPropagation f).result = .ok () ↔
      (∀ flag ∈ f.propagation.entries, ∀ x ∈ flag.2.named, x ∈ s.subFlows f) ∧
        ∀ x ∈ s.subFlows f, f.checkSubFlow x = .ok () := by
  constructor
  · intro h
    obtain ⟨units, hflags, hsubFlows⟩ := Logged.result_bind_eq_ok_iff.1 h
    refine ⟨fun flag hflag => ?_, Except.forM_eq_ok_iff.1 hsubFlows⟩
    obtain ⟨_, -, hchecked⟩ := forall₂_of_mem (Logged.result_forAll_eq_ok_iff.1 hflags) hflag
    exact checkFlag_eq_ok_iff.1 hchecked
  · rintro ⟨hflags, hsubFlows⟩
    obtain ⟨units, hunits⟩ := Logged.exists_result_forAll_eq_ok_iff.2 fun flag hflag =>
      ⟨(), checkFlag_eq_ok_iff.2 (hflags flag hflag)⟩
    exact Logged.result_bind_eq_ok_iff.2 ⟨units, hunits, Except.forM_eq_ok_iff.2 hsubFlows⟩

end System

end TaskFlow
