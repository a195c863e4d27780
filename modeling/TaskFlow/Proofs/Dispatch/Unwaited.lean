import TaskFlow.Dispatch.Query
import TaskFlow.Proofs.Dispatch.Consistency
import TaskFlow.Proofs.Failure.Resolution

/-!
# Failures that no fallback waits for

- `FlowTable.resolveFailure_congr`: a node that no vertex covers never decides which fallback some failures get;
- `FlowTable.edgesFrom_eq_nil_iff`: no edge waits for a node that is no source;
- `compileWith_ignores_unwaited`: so it is with the nodes of a compiled table that its flow does not wait for or whose
  failures it passes on at once.
-/

namespace TaskFlow

namespace FlowTable

variable {f : FlowTable} {x : String}

/-- A node that no vertex covers makes no difference to the failures. -/
theorem resolveFailure_congr {rules : List FailureRule} (hfailures : f.failures = .ofRules rules)
    (h : ∀ v ∈ f.failures.nodes, x ∉ v.traversed) (failed : NameSet) (atHand : Registry) (nodeArgs : Option Json) :
    f.resolveFailure (failed.insert x) atHand nodeArgs = f.resolveFailure (failed.erase x) atHand nodeArgs := by
  have hholds : f.failures.Holds (.ofRules rules) := hfailures ▸ FailureGraph.holds_ofRules rules
  have hsubset : ∀ id X, f.failures.setOf? id = some X → (X ⊆ failed.insert x ↔ X ⊆ failed.erase x) := by
    intro id X hX
    obtain ⟨v, hv, rfl⟩ := FailureGraph.setOf?_eq_some_iff.1 hX
    have hne : ∀ y ∈ v.traversed, y ≠ x := fun y hy heq => h v (List.mem_of_getElem? hv) (heq ▸ hy)
    refine forall₂_congr fun y hy => ?_
    rw [NameSet.mem_insert, NameSet.mem_erase, or_iff_right (hne y hy), and_iff_left (hne y hy)]
  unfold resolveFailure resolveFailureWith FailureGraph.resolve
  rw [FailureGraph.candidates_congr hholds hsubset]

theorem edgesFrom_eq_nil_iff : f.edgesFrom x = [] ↔ ∀ e ∈ f.edges, x ∉ e.sources := by
  have hedges : f.edges = f.edges.zipIdx.map Prod.fst := (List.zipIdx_map_fst 0 f.edges).symm
  rw [hedges, List.forall_mem_map, edgesFrom, edgesWhere, List.filterMap_eq_nil_iff]
  refine forall₂_congr fun e _ => ?_
  simp only [List.contains_iff_mem, ite_eq_right_iff, reduceCtorEq, imp_false]

end FlowTable

/-- **Failures that nobody waits for never influence fallbacks**: whatever else failed, the fallback of a compiled table
is the same with and without a failed node that the flow does not wait for, or whose failure it passes on at once. No
vertex covers such a node, and no edge waits for a node that the flow does not wait for. -/
theorem compileWith_ignores_unwaited {digest : String → String} {docs : Documents} {config : Configuration}
    {registry : Registry} {t : DispatchTable} (hconfig : docs.check.result = .ok config)
    (ht : (compileWith digest config registry).result = .ok t) {name : String} {ft : FlowTable}
    (hft : t.flows.get? name = some ft) {x : String} (hx : x ∈ ft.nowait ∨ x ∈ ft.eagerFailures) :
    (∀ (failed : NameSet) (atHand : Registry) (nodeArgs : Option Json),
      ft.resolveFailure (failed.insert x) atHand nodeArgs = ft.resolveFailure (failed.erase x) atHand nodeArgs) ∧
    (∀ walked id v, ft.failures.walk? walked = some id → ft.failures.node? id = some v → x ∉ v.traversed) ∧
    (x ∈ ft.nowait → ft.edgesFrom x = []) := by
  have haccepted := Documents.accepted_of_check hconfig
  obtain ⟨s, hs, ht⟩ := compileWith_eq_ok_iff.1 ht
  have hbuilt := System.builtFrom_of_build haccepted hs
  obtain ⟨f, hf, hread⟩ := DispatchTable.exists_flow_of_ofSystem (fun _ _ => hbuilt.name_eq) ht hft
  have hconsistent := FlowTable.consistent_of_ofFlow haccepted hbuilt ht hf hread
  have huncovered : ∀ v ∈ ft.failures.nodes, x ∉ v.traversed := by
    rcases hx with hnowait | heager
    · exact (hconsistent.nowait x hnowait).2.2
    · exact (hconsistent.eagerFailures x heager).2.2
  refine ⟨FlowTable.resolveFailure_congr (FlowTable.failures_of_ofFlow hread) huncovered, ?_, ?_⟩
  · intro walked id v _ hv
    exact huncovered v (List.mem_of_getElem? hv)
  · intro hnowait
    exact FlowTable.edgesFrom_eq_nil_iff.2 (hconsistent.nowait x hnowait).2.1

/-- One task that the flow does not wait for, one whose failure it passes on at once, and a rule for a third. -/
theorem compileWith_ignores_unwaited_tasks :
    let task (name : String) : TaskDecl := { name := name, moduleName := "app" }
    let docs : Documents := {
      nodes := { flows := ["f"], tasks := ["a", "b", "c", "d"].map task }
      flows := [⟨[{
        name := "f"
        edges := [
          { sources := some [], targets := some ["a", "b"] },
          { sources := some ["a"], targets := some ["c"] }]
        failures := [{ nodes := ["a"], fallback := .nodes ["d"] }]
        nowait := ["c"]
        eagerFailures := ["b"] }]⟩] }
    let config : Configuration := ⟨docs.nodes, docs.definitions⟩
    docs.check.result = .ok config ∧ ∃ t, (compileWith (fun _ => "") config .builtin).result = .ok t ∧
      ∃ ft, t.flows.get? "f" = some ft ∧ (∀ x ∈ ["b", "c"], ∀ failed : NameSet,
        ft.resolveFailure (failed.insert x) .builtin none = ft.resolveFailure (failed.erase x) .builtin none) ∧
        ft.edgesFrom "c" = [] := by
  intro task docs config
  have hconfig : docs.check.result = .ok config := by
    subst config docs task
    rfl
  have hcompiles : ((compileWith (fun _ => "") config .builtin).result.toOption.any fun t =>
      (t.flows.get? "f").any fun ft => ft.nowait == .ofList ["c"] && ft.eagerFailures == .ofList ["b"]) = true := by
    decide
  obtain ⟨t, ht, h⟩ := Except.toOption_any_iff.1 hcompiles
  simp only [Option.any_eq_true, Bool.and_eq_true, beq_iff_eq] at h
  obtain ⟨ft, hft, hnowait, heager⟩ := h
  have hb := compileWith_ignores_unwaited (x := "b") hconfig ht hft (Or.inr (by rw [heager]; decide))
  have hc := compileWith_ignores_unwaited (x := "c") hconfig ht hft (Or.inl (by rw [hnowait]; decide))
  refine ⟨hconfig, t, ht, ft, hft, ?_, hc.2.2 (by rw [hnowait]; decide)⟩
  refine List.forall_mem_cons.2 ⟨fun failed => hb.1 failed .builtin none, List.forall_mem_singleton.2 fun failed => ?_⟩
  exact hc.1 failed .builtin none

end TaskFlow
