import TaskFlow.Proofs.Condition.Calls
import TaskFlow.Proofs.Dispatch.References

/-!
# Conditions as shown in a dispatch table

- `Condition.render_guard`, `Condition.requiresMessage_guard`: a condition and its guard have the same text, and both or
  neither of them takes a message;
- `EdgeEntry.conditionText_of_ofEdge`, `FallbackEntry.conditionText_ofRule`: an entry has the text of its own condition;
- `compileWith_shows_conditions`: so has every entry of a compiled table.
-/

namespace TaskFlow

namespace Condition

mutual

/-- A guard shows as its condition, groups of none and of one included. -/
@[simp] theorem render_guard : ∀ c : Condition, c.guard.render = c.render
  | always => rfl
  | call _ => rfl
  | all cs => by rw [guard, Guard.render, render, renderAll_guards cs]
  | any cs => by rw [guard, Guard.render, render, renderAll_guards cs]
  | negate c => by rw [guard, Guard.render, render, render_guard c]

theorem renderAll_guards : ∀ cs : List Condition, Guard.renderAll (guards cs) = renderAll cs
  | [] => rfl
  | c :: cs => by rw [guards, Guard.renderAll, renderAll, render_guard c, renderAll_guards cs]

end

@[simp] theorem requiresMessage_guard (c : Condition) : c.guard.requiresMessage = c.requiresMessage := by
  rw [Guard.requiresMessage, calls_guard, requiresMessage]

end Condition

/-- An edge is kept with the text of its condition. -/
theorem EdgeEntry.conditionText_of_ofEdge {s : System} {e : Edge} {entry : EdgeEntry}
    (h : (EdgeEntry.ofEdge s e).result = .ok entry) : entry.conditionText = entry.condition.render := by
  obtain ⟨_, -, h⟩ := Logged.result_bind_eq_ok_iff.1 h
  cases h
  exact (Condition.render_guard e.condition).symm

/-- A rule is kept with the text of its condition. -/
theorem FallbackEntry.conditionText_ofRule (r : FailureRule) :
    (FallbackEntry.ofRule r).conditionText = (FallbackEntry.ofRule r).condition.render :=
  (Condition.render_guard r.condition).symm

/-- **What is kept for evaluation shows and declares the same as what was declared**: a guard of any nesting has the
text of its condition and takes a message just if the condition does. Every edge and every fallback of a compiled table
has the text of the guard beside it. -/
theorem compileWith_shows_conditions :
    (∀ c : Condition, c.guard.render = c.render ∧ c.guard.requiresMessage = c.requiresMessage) ∧
    ∀ (digest : String → String) (docs : Documents) (config : Configuration) (registry : Registry)
      (table : DispatchTable), docs.check.result = .ok config →
      (compileWith digest config registry).result = .ok table →
      ∀ name ft, table.flows.get? name = some ft →
        (∀ e ∈ ft.edges, e.conditionText = e.condition.render) ∧
        ∀ v ∈ ft.failures.nodes, ∀ entry ∈ v.fallbacks, entry.conditionText = entry.condition.render := by
  refine ⟨fun c => ⟨c.render_guard, c.requiresMessage_guard⟩, ?_⟩
  intro digest docs config registry table hconfig htable name ft hft
  obtain ⟨s, hs, htable⟩ := compileWith_eq_ok_iff.1 htable
  have hbuilt := System.builtFrom_of_build (Documents.accepted_of_check hconfig) hs
  obtain ⟨f, hf, hflow⟩ := DispatchTable.exists_flow_of_ofSystem (fun _ _ => hbuilt.name_eq) htable hft
  constructor
  · intro entry hentry
    obtain ⟨e, -, hkept⟩ := FlowTable.exists_edge_of_ofFlow hflow hentry
    exact EdgeEntry.conditionText_of_ofEdge hkept
  · intro v hv entry hentry
    obtain ⟨r, -, rfl⟩ := FlowTable.exists_rule_of_fallback hbuilt hf hflow hv hentry
    exact FallbackEntry.conditionText_ofRule r

/-- An edge with a negated call, and a failure rule with a group of one call. -/
theorem compileWith_shows_conditions_negated :
    let docs : Documents := {
      nodes := {
        flows := ["f"]
        tasks := [{ name := "a", moduleName := "app", storage := some "s" }, { name := "b", moduleName := "app" }]
        storages := [{ name := "s", moduleName := "app" }] }
      flows := [⟨[{
        name := "f"
        edges := [{ sources := some [], targets := some ["a"] }, {
          sources := some ["a"]
          targets := some ["b"]
          condition := some (.table [("not", .table [
            ("name", .str "fieldExist"), ("args", .table [("key", .str "id")])])]) }]
        failures := [{
          nodes := ["a"]
          fallback := .nodes ["b"]
          condition := some (.table [("and", .arr [.table [("name", .str "argsIsNone")]])]) }] }]⟩] }
    let config : Configuration := ⟨docs.nodes, docs.definitions⟩
    docs.check.result = .ok config ∧ ∃ table ft, (compileWith (fun _ => "") config .builtin).result = .ok table ∧
      table.flows.get? "f" = some ft ∧
      (∃ e ∈ ft.edges, e.conditionText = "(not fieldExist(a, key=\"id\"))" ∧ e.conditionText = e.condition.render) ∧
      ∃ v ∈ ft.failures.nodes, ∃ entry ∈ v.fallbacks,
        entry.conditionText = "argsIsNone()" ∧ entry.conditionText = entry.condition.render := by
  intro docs config
  have hconfig : docs.check.result = .ok config := rfl
  have hcompiles : ((compileWith (fun _ => "") config .builtin).result.toOption.any fun table =>
      (table.flows.get? "f").any fun ft =>
        (ft.edges.any fun e => e.conditionText == "(not fieldExist(a, key=\"id\"))") &&
        ft.failures.nodes.any fun v => v.fallbacks.any fun entry => entry.conditionText == "argsIsNone()") = true := by
    decide
  obtain ⟨table, htable, h⟩ := Except.toOption_any_iff.1 hcompiles
  simp only [Option.any_eq_true, Bool.and_eq_true, List.any_eq_true, beq_iff_eq] at h
  obtain ⟨ft, hft, ⟨e, he, hedge⟩, v, hv, entry, hentry, hfallback⟩ := h
  obtain ⟨-, hshown⟩ := compileWith_shows_conditions
  obtain ⟨hedges, hfallbacks⟩ := hshown _ docs config .builtin table hconfig htable "f" ft hft
  exact ⟨hconfig, table, ft, htable, hft, ⟨e, he, hedge, hedges e he⟩, v, hv, entry, hentry, hfallback,
    hfallbacks v hv entry hentry⟩

/-- Groups of none, of one and of two, each inside another one. -/
example :
    let call : Condition := .call ⟨⟨"app", "ready"⟩, some "a", .ofList [("n", .num (.int 1))], true, false⟩
    let c : Condition := .all [.any [], .any [call], .negate (.any [call, .all []])]
    c.guard.render = "(False and ready(a, n=1) and (not (ready(a, n=1) or True)))" ∧
      c.guard.requiresMessage = true := by decide

end TaskFlow
