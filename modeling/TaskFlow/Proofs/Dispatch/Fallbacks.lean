import TaskFlow.Dispatch.Query
import TaskFlow.Proofs.Condition.Results
import TaskFlow.Proofs.Dispatch.Messages
import TaskFlow.Proofs.Failure.Resolution

/-!
# Failures are resolved without results

- `Resolution.first_congr`, `Resolution.exists_first_eq_ok`: the answer depends on the candidates alone, and there is
  one if every candidate is decided;
- `FailureGraph.exists_node_of_mem_candidates`: what is offered stands at a vertex of the graph;
- `resolveFailure_needs_no_results`: in a compiled table the fallback for some failures does not depend on the stored
  results, and with the built-in predicates there always is an answer.
-/

namespace TaskFlow

namespace Resolution

variable {ε : Type} {accepts accepts' : FallbackEntry → Except ε Bool}

/-- Two tests that agree on every candidate choose the same one. -/
theorem first_congr {rs : List Resolution} (h : ∀ r ∈ rs, accepts r.entry = accepts' r.entry) :
    first accepts rs = first accepts' rs := by
  induction rs with
  | nil => rfl
  | cons r rs ih =>
    have hrest := ih fun r' hr' => h r' (List.mem_cons_of_mem _ hr')
    rw [first, first, h r List.mem_cons_self, hrest]

/-- A test that decides every candidate comes to an answer. -/
theorem exists_first_eq_ok {rs : List Resolution} (h : ∀ r ∈ rs, ∃ b, accepts r.entry = .ok b) :
    ∃ answer, first accepts rs = .ok answer := by
  induction rs with
  | nil => exact ⟨none, rfl⟩
  | cons r rs ih =>
    obtain ⟨b, hb⟩ := h r List.mem_cons_self
    rw [first, hb]
    cases b with
    | true => exact ⟨some r, rfl⟩
    | false => exact ih fun r' hr' => h r' (List.mem_cons_of_mem _ hr')

end Resolution

/-- A candidate is the fallback of some vertex. -/
theorem FailureGraph.exists_node_of_mem_candidates {g : FailureGraph} {failed : NameSet} {r : Resolution}
    (h : r ∈ g.candidates failed) : ∃ v ∈ g.nodes, r.entry ∈ v.fallbacks := by
  obtain ⟨id, -, hr⟩ := List.mem_flatMap.1 h
  unfold resolutionsAt at hr
  split at hr
  · simp at hr
  · rename_i v hv
    obtain ⟨entry, hentry, rfl⟩ := List.mem_map.1 hr
    exact ⟨v, List.mem_of_getElem? hv, hentry⟩

/-- The calls of a failure rule are those of registered predicates. -/
theorem System.BuiltFrom.exists_signed_of_rule {config : Configuration} {registry : Registry} {s : System}
    {name : String} {f : Flow} (h : s.BuiltFrom config registry) (hf : s.flows.get? name = some f) {r : FailureRule}
    (hr : r ∈ f.rules) {c : Call} (hc : c ∈ r.condition.calls) : ∃ p, c.Signed registry p := by
  obtain ⟨_, -, -, decl, -, hread⟩ := h.exists_failureDecl hf hr
  obtain ⟨-, -, -, -, -, -, hcondition, -⟩ := FailureRule.ofDecl_eq_ok_iff.1 hread
  exact Condition.signed_of_ofDecl hcondition c hc

/-- **Failures are resolved without results**: whatever is stored, the fallback of a compiled table for some failed
nodes is the one found with nothing stored, for any functions at hand. With the built-in functions, at compile time and
later, there always is an answer. -/
theorem resolveFailure_needs_no_results {digest : String → String} {docs : Documents} {config : Configuration}
    {registry : Registry} {table : DispatchTable} (hconfig : docs.check.result = .ok config)
    (htable : (compileWith digest config registry).result = .ok table) {name : String} {ft : FlowTable}
    (hft : table.flows.get? name = some ft) (failed : NameSet) (atHand : Registry) (nodeArgs : Option Json) :
    (∀ results, ft.resolveFailureWith results failed atHand nodeArgs = ft.resolveFailure failed atHand nodeArgs) ∧
    (registry = .builtin → atHand = .builtin → ∃ answer, ft.resolveFailure failed atHand nodeArgs = .ok answer) := by
  obtain ⟨s, hs, htable⟩ := compileWith_eq_ok_iff.1 htable
  have hbuilt := System.builtFrom_of_build (Documents.accepted_of_check hconfig) hs
  obtain ⟨f, hf, hflow⟩ := DispatchTable.exists_flow_of_ofSystem (fun _ _ => hbuilt.name_eq) htable hft
  have hrule : ∀ r ∈ ft.failures.candidates failed, ∃ rule ∈ f.rules, r.entry = .ofRule rule := by
    intro r hr
    obtain ⟨v, hv, hentry⟩ := FailureGraph.exists_node_of_mem_candidates hr
    rw [FlowTable.failures_of_ofFlow hflow] at hv
    exact FailureGraph.exists_rule_of_mem_fallbacks (fun rule hrule => hbuilt.nodes_of_rule hf hrule) hv hentry
  have hmessage : ∀ r ∈ ft.failures.candidates failed, ∀ c ∈ r.entry.condition.calls, c.requiresMessage = false := by
    intro r hr c hc
    obtain ⟨rule, hmem, hentry⟩ := hrule r hr
    rw [hentry, FallbackEntry.ofRule, Condition.calls_guard] at hc
    exact hbuilt.requiresMessage_of_rule hf hmem c hc
  constructor
  · intro results
    apply Resolution.first_congr
    intro r hr
    exact Guard.evaluate_eq_of_requiresMessage (hmessage r hr) results Results.none
  · intro hregistry hhand
    subst hregistry hhand
    apply Resolution.exists_first_eq_ok
    intro r hr
    refine Guard.exists_ok_of_signed_builtin (fun c hc => ?_) (hmessage r hr)
    obtain ⟨rule, hmem, hentry⟩ := hrule r hr
    rw [hentry, FallbackEntry.ofRule, Condition.calls_guard] at hc
    exact hbuilt.exists_signed_of_rule hf hmem hc

/-- A rule for two nodes whose condition compares an argument of the flow that may be missing. -/
theorem resolveFailure_needs_no_results_args :
    let docs : Documents := {
      nodes := {
        flows := ["f"]
        tasks := [{ name := "a", moduleName := "app", storage := some "s" }, { name := "b", moduleName := "app" },
          { name := "c", moduleName := "app" }]
        storages := [{ name := "s", moduleName := "app" }] }
      flows := [⟨[{
        name := "f"
        edges := [{ sources := some [], targets := some ["a"] }, { sources := some ["a"], targets := some ["b"] }]
        failures := [{
          nodes := ["b", "a"]
          fallback := .nodes ["c"]
          condition := some (.table [("or", .arr [
            .table [("name", .str "argsFieldGreater"), ("args", .table [("key", .str "tries"), ("value", .int 3)])],
            .table [("not", .table [("name", .str "argsIsNone")])]])]) }] }]⟩] }
    let config : Configuration := ⟨docs.nodes, docs.definitions⟩
    let failed : NameSet := .ofList ["a", "b", "d"]
    let stored : Results := fun _ => some .null
    docs.check.result = .ok config ∧ ∃ table ft, (compileWith (fun _ => "") config .builtin).result = .ok table ∧
      table.flows.get? "f" = some ft ∧ (ft.failures.candidates failed).length = 1 ∧
      ft.resolveFailureWith stored failed .builtin none = ft.resolveFailure failed .builtin none ∧
      ∃ answer, ft.resolveFailure failed .builtin none = .ok answer := by
  intro docs config failed stored
  have hconfig : docs.check.result = .ok config := rfl
  have hcompiles : ((compileWith (fun _ => "") config .builtin).result.toOption.any fun table =>
      (table.flows.get? "f").any fun ft =>
        ((ft.failures.covered failed).flatMap ft.failures.resolutionsAt).length == 1) = true := by decide +kernel
  obtain ⟨table, htable, h⟩ := Except.toOption_any_iff.1 hcompiles
  simp only [Option.any_eq_true, beq_iff_eq] at h
  obtain ⟨ft, hft, hcount⟩ := h
  have hlength : (ft.failures.candidates failed).length = 1 :=
    (ft.failures.candidates_perm failed).length_eq.trans hcount
  obtain ⟨hsame, hanswers⟩ := resolveFailure_needs_no_results hconfig htable hft failed .builtin none
  exact ⟨hconfig, table, ft, htable, hft, hlength, hsame stored, hanswers rfl rfl⟩

end TaskFlow
