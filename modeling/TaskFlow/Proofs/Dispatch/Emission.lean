import TaskFlow.Dispatch.Compile
import TaskFlow.Proofs.System.Build
import TaskFlow.Proofs.System.Plan

/-!
# When a system has a dispatch table

- `exists_ofSystem_iff`: a system has a table just if every selective run of its edges has a plan;
- `exists_planSelective_iff`: a run that passed the checks has a plan just if its search finds a task (`System.Finds`);
- `ofSystem_eq_ok_iff_finds`: both for the systems that are built. Where edges start every sub-flow the search always
  finds a task; a sub-flow that is only a fallback can be searched first and keep a task from the others.
-/

namespace TaskFlow

variable {s : System}

/-! ## Tables and plans -/

/-- The plan of the selective run of an edge. -/
def Selective.planOn (s : System) (sel : Selective) (e : Edge) : Except ConfigError (Dict (List Nat)) :=
  (s.selectivePlan (e.targets.headD "") sel.tasks sel.runSubsequent sel.followSubflows).result

theorem EdgeEntry.exists_ofEdge_iff {e : Edge} :
    (∃ entry, (EdgeEntry.ofEdge s e).result = .ok entry) ↔
      ∀ sel, e.selective = some sel → ∃ plan, sel.planOn s e = .ok plan := by
  have hentry : (∃ entry, (EdgeEntry.ofEdge s e).result = .ok entry) ↔
      ∃ entry, (SelectiveEntry.ofEdge s e).result = .ok entry := by
    constructor
    · rintro ⟨_, h⟩
      obtain ⟨entry, hentry, -⟩ := Logged.result_bind_eq_ok_iff.1 h
      exact ⟨entry, hentry⟩
    · rintro ⟨entry, hentry⟩
      exact ⟨_, Logged.result_bind_eq_ok_iff.2 ⟨entry, hentry, rfl⟩⟩
  rw [hentry, SelectiveEntry.ofEdge]
  cases hsel : e.selective with
  | none => exact ⟨fun _ _ h => (nomatch h), fun _ => ⟨none, rfl⟩⟩
  | some sel =>
    constructor
    · rintro ⟨_, h⟩ sel' heq
      cases heq
      obtain ⟨plan, hplan, -⟩ := Logged.result_bind_eq_ok_iff.1 h
      exact ⟨plan, hplan⟩
    · intro h
      obtain ⟨plan, hplan⟩ := h sel rfl
      exact ⟨_, Logged.result_bind_eq_ok_iff.2 ⟨plan, hplan, rfl⟩⟩

theorem FlowTable.exists_ofFlow_iff {f : Flow} :
    (∃ ft, (FlowTable.ofFlow s f).result = .ok ft) ↔
      ∀ e ∈ f.edges, ∃ entry, (EdgeEntry.ofEdge s e).result = .ok entry := by
  rw [← Logged.exists_result_forAll_eq_ok_iff]
  constructor
  · rintro ⟨_, h⟩
    obtain ⟨edges, hedges, -⟩ := Logged.result_bind_eq_ok_iff.1 h
    exact ⟨edges, hedges⟩
  · rintro ⟨edges, hedges⟩
    exact ⟨_, Logged.result_bind_eq_ok_iff.2 ⟨edges, hedges, rfl⟩⟩

/-- A system has a table just if every selective run of its edges has a plan. -/
theorem DispatchTable.exists_ofSystem_iff {digest : String → String} :
    (∃ table, (DispatchTable.ofSystem digest s).result = .ok table) ↔
      ∀ f ∈ s.flows.values, ∀ e ∈ f.edges, ∀ sel, e.selective = some sel → ∃ plan, sel.planOn s e = .ok plan := by
  have hflows : (∃ table, (DispatchTable.ofSystem digest s).result = .ok table) ↔
      ∀ f ∈ s.flows.values, ∃ ft, (FlowTable.ofFlow s f).result = .ok ft := by
    constructor
    · rintro ⟨_, h⟩ f hf
      obtain ⟨flows, hflows, -⟩ := Logged.result_bind_eq_ok_iff.1 h
      obtain ⟨entry, -, hentry⟩ := forall₂_of_mem (Logged.result_forAll_eq_ok_iff.1 hflows) hf
      obtain ⟨ft, hft, -⟩ := Logged.result_bind_eq_ok_iff.1 hentry
      exact ⟨ft, hft⟩
    · intro h
      have hentries : ∀ f ∈ s.flows.values, ∃ entry,
          (do return (f.name, ← FlowTable.ofFlow s f) : Logged ConfigError _).result = .ok entry := by
        intro f hf
        obtain ⟨ft, hft⟩ := h f hf
        exact ⟨_, Logged.result_bind_eq_ok_iff.2 ⟨ft, hft, rfl⟩⟩
      obtain ⟨flows, hflows⟩ := Logged.exists_result_forAll_eq_ok_iff.2 hentries
      exact ⟨_, Logged.result_bind_eq_ok_iff.2 ⟨flows, hflows, Logged.result_bind_eq_ok_iff.2 ⟨(), rfl, rfl⟩⟩⟩
  simp only [hflows, FlowTable.exists_ofFlow_iff, EdgeEntry.exists_ofEdge_iff]

/-! ## Plans and searches -/

/-- A run of tasks that the flow runs has a plan just if its search finds one of them. -/
theorem System.exists_planSelective_iff (hnames : ∀ name f, s.flows.get? name = some f → f.name = name)
    {target : String} {f : Flow} (hf : s.flows.get? target = some f) {tasks : List String} {follow : Bool}
    (hruns : ∀ task ∈ tasks, s.runsTask f task follow = true) (runSubsequent : Propagation) :
    (∃ plan, (s.selectivePlan target tasks runSubsequent follow).result = .ok plan) ↔ s.Finds follow target tasks := by
  simp only [selectivePlan_eq_ok_iff, planSelective_eq_ok_iff hnames]
  constructor
  · rintro ⟨plan, -, seen, left, hleft, hpart, -⟩
    exact ⟨seen, left, hleft, hpart⟩
  · rintro ⟨seen, left, hleft, hpart⟩
    exact ⟨_, ⟨f, hf, hruns⟩, seen, left, hleft, hpart, rfl⟩

/-- A selective run of a built system has a plan just if its search finds a task. -/
theorem System.BuiltFrom.exists_planOn_iff {config : Configuration} {registry : Registry}
    (h : s.BuiltFrom config registry) {f : Flow} (hf : f ∈ s.flows.values) {e : Edge} (he : e ∈ f.edges)
    {sel : Selective} (hsel : e.selective = some sel) :
    (∃ plan, sel.planOn s e = .ok plan) ↔ s.Finds sel.followSubflows (e.targets.headD "") sel.tasks := by
  obtain ⟨name, hname⟩ := Dict.mem_values_iff.1 hf
  obtain ⟨target, htarget, hruns⟩ := h.exists_selectiveTarget hname he hsel
  exact System.exists_planSelective_iff (fun _ _ => h.name_eq) htarget hruns sel.runSubsequent

/-- **A built system has a dispatch table just if the searches of its selective runs find a task.** Each of them does,
and so has a plan, wherever edges start every sub-flow or no run looks into sub-flows. -/
theorem ofSystem_eq_ok_iff_finds {digest : String → String} {docs : Documents} {config : Configuration}
    {registry : Registry} (hconfig : docs.check.result = .ok config)
    (hs : (System.build config registry).result = .ok s) :
    ((∃ table, (DispatchTable.ofSystem digest s).result = .ok table) ↔
      ∀ f ∈ s.flows.values, ∀ e ∈ f.edges, ∀ sel, e.selective = some sel →
        s.Finds sel.followSubflows (e.targets.headD "") sel.tasks) ∧
    (∀ f ∈ s.flows.values, ∀ e ∈ f.edges, ∀ sel, e.selective = some sel →
      ((∃ plan, sel.planOn s e = .ok plan) ↔ s.Finds sel.followSubflows (e.targets.headD "") sel.tasks)) ∧
    (∀ f ∈ s.flows.values, ∀ e ∈ f.edges, ∀ sel, e.selective = some sel →
      (sel.followSubflows = true → s.EdgesStartSubFlows) → ∃ plan, sel.planOn s e = .ok plan) := by
  have hbuilt := System.builtFrom_of_build (Documents.accepted_of_check hconfig) hs
  refine ⟨?_, fun f hf e he sel hsel => hbuilt.exists_planOn_iff hf he hsel, fun f hf e he sel hsel hstart => ?_⟩
  · rw [DispatchTable.exists_ofSystem_iff]
    constructor
    · intro h f hf e he sel hsel
      exact (hbuilt.exists_planOn_iff hf he hsel).1 (h f hf e he sel hsel)
    · intro h f hf e he sel hsel
      exact (hbuilt.exists_planOn_iff hf he hsel).2 (h f hf e he sel hsel)
  · obtain ⟨name, hname⟩ := Dict.mem_values_iff.1 hf
    obtain ⟨target, htarget, hruns⟩ := hbuilt.exists_selectiveTarget hname he hsel
    have hself : target.name = e.targets.headD "" := hbuilt.name_eq htarget
    have hne : sel.tasks ≠ [] := hbuilt.tasks_ne_nil hname he hsel
    rw [hbuilt.exists_planOn_iff hf he hsel]
    rw [← hself] at htarget ⊢
    exact System.finds_of_runsTask (fun _ _ => hbuilt.name_eq) hstart htarget hne hruns

/-- A flow whose edges start the flow that has the task, two levels down. -/
theorem ofSystem_eq_ok_iff_finds_nested :
    let docs : Documents := {
      nodes := { flows := ["R", "F", "Y"], tasks := [{ name := "a", moduleName := "app.tasks" }] }
      flows := [⟨[
        { name := "R", edges := [{
            sources := some []
            targets := some ["F"]
            selective := some { tasks := ["a"], followSubflows := true } }] },
        { name := "F", edges := [{ sources := some [], targets := some ["Y"] }] },
        { name := "Y", edges := [{ sources := some [], targets := some ["a"] }] }]⟩] }
    let config : Configuration := ⟨docs.nodes, docs.definitions⟩
    docs.check.result = .ok config ∧ ∃ s table, (System.build config {}).result = .ok s ∧ s.EdgesStartSubFlows ∧
      (DispatchTable.ofSystem digest s).result = .ok table := by
  intro docs config
  have hconfig : docs.check.result = .ok config := rfl
  have hbuilds : ((System.build config {}).result.toOption.any fun s =>
      s.flows.values.all fun f => (s.subFlows f).names.all f.graph.contains) = true := by decide +kernel
  cases hs : (System.build config {}).result with
  | error e =>
    rw [hs] at hbuilds
    cases hbuilds
  | ok s =>
    rw [hs] at hbuilds
    have hstart : s.EdgesStartSubFlows := System.edgesStartSubFlows_iff.2 hbuilds
    obtain ⟨htable, hplans, hall⟩ := ofSystem_eq_ok_iff_finds hconfig hs
    obtain ⟨table, htable⟩ := htable.2 fun f hf e he sel hsel =>
      (hplans f hf e he sel hsel).1 (hall f hf e he sel hsel fun _ => hstart)
    exact ⟨hconfig, s, table, rfl, hstart, htable⟩

/-- The flow `F` starts `B` by an edge and `A`, which also starts `B` and is asked first, as a fallback only. `B` finds
`A` under way and takes no part, so the task that both lead to is planned for `A` alone, and `F` has nothing to plan. -/
theorem ofSystem_fails_behind_fallback :
    let docs : Documents := {
      nodes := { flows := ["R", "F", "A", "B", "Y"], tasks := [{ name := "a", moduleName := "app.tasks" }] }
      flows := [⟨[
        { name := "R", edges := [{
            sources := some []
            targets := some ["F"]
            selective := some { tasks := ["a"], followSubflows := true } }] },
        { name := "F", edges := [{ sources := some [], targets := some ["B"] }]
          failures := [{ nodes := ["B"], fallback := .nodes ["A"] }] },
        { name := "A", edges := [{ sources := some [], targets := some ["B"] },
            { sources := some [], targets := some ["Y"] }] },
        { name := "B", edges := [{ sources := some [], targets := some ["A"] }] },
        { name := "Y", edges := [{ sources := some [], targets := some ["a"] }] }]⟩] }
    let config : Configuration := ⟨docs.nodes, docs.definitions⟩
    docs.check.result = .ok config ∧ ∃ s, (System.build config {}).result = .ok s ∧
      ¬∃ table, (DispatchTable.ofSystem digest s).result = .ok table := by
  intro docs config
  have hconfig : docs.check.result = .ok config := rfl
  have hbuilds : (System.build config {}).result.toBool = true := by decide +kernel
  have hfails : (System.build config {} >>= DispatchTable.ofSystem digest).result.toBool = false := by decide +kernel
  cases hs : (System.build config {}).result with
  | error e =>
    rw [hs] at hbuilds
    cases hbuilds
  | ok s =>
    refine ⟨hconfig, s, rfl, ?_⟩
    rintro ⟨table, htable⟩
    rw [Logged.result_bind_eq_ok_iff.2 ⟨s, hs, htable⟩] at hfails
    cases hfails

end TaskFlow
