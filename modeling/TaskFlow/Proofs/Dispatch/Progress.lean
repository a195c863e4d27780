import TaskFlow.Dispatch.Query
import TaskFlow.Proofs.Condition.Progress
import TaskFlow.Proofs.Dispatch.Messages

/-!
# A dispatcher does not get stuck

- `BuiltFrom.exists_signed`: the calls of a built system are those of registered predicates;
- `shouldFire_builtin_answers`: with the results of its sources, an edge of a compiled table is decided.
-/

namespace TaskFlow

theorem System.BuiltFrom.exists_signed {config : Configuration} {registry : Registry} {s : System} {name : String}
    {f : Flow} (h : s.BuiltFrom config registry) (hf : s.flows.get? name = some f) {e : Edge} (he : e ∈ f.edges)
    {c : Call} (hc : c ∈ e.condition.calls) : ∃ p, c.Signed registry p := by
  obtain ⟨_, -, -, decl, -, hread⟩ := h.exists_edgeDecl hf he
  exact Condition.signed_of_ofDecl (Edge.ofDecl_eq_ok_iff.1 hread).2.1 c hc

/-- **With the results of its sources an edge is decided**: `shouldFire` answers with a truth value for every edge of a
table that is compiled with the built-in functions, unless a condition compares a length with something that is no
natural number. No function is unregistered by then, no argument missing and no result looked up in vain. -/
theorem shouldFire_builtin_answers {digest : String → String} {docs : Documents} {config : Configuration}
    {table : DispatchTable} (hconfig : docs.check.result = .ok config)
    (htable : (compileWith digest config .builtin).result = .ok table) {name : String} {ft : FlowTable}
    (hft : table.flows.get? name = some ft) {i : Nat} {entry : EdgeEntry} (hentry : ft.edges[i]? = some entry)
    {results : Results} (hresults : ∀ node ∈ entry.sources, (results node).isSome) (nodeArgs : Option Json) :
    (∃ b, ft.shouldFire i .builtin results nodeArgs = .ok b) ∨
      ft.shouldFire i .builtin results nodeArgs = .error .lengthNotNatural ∧
        ∃ c ∈ entry.condition.calls, c.ComparesLength ∧
          ∃ length, c.args.get? "length" = some length ∧ ∀ n : Nat, length ≠ .ofNat n := by
  obtain ⟨s, hs, htable⟩ := compileWith_eq_ok_iff.1 htable
  have hbuilt := System.builtFrom_of_build (Documents.accepted_of_check hconfig) hs
  obtain ⟨f, hf, hflow⟩ := DispatchTable.exists_flow_of_ofSystem (fun _ _ => hbuilt.name_eq) htable hft
  obtain ⟨e, he, hkept⟩ :=
    forall₂_of_mem (FlowTable.edges_of_ofFlow hflow).flip (List.mem_of_getElem? hentry)
  rw [EdgeEntry.sources_of_ofEdge hkept] at hresults
  have hcalls : ∀ c ∈ entry.condition.calls, (∃ b, c.evaluate .builtin results nodeArgs = .ok b) ∨
      c.evaluate .builtin results nodeArgs = .error .lengthNotNatural ∧ c.ComparesLength ∧
        ∃ length, c.args.get? "length" = some length ∧ ∀ n : Nat, length ≠ .ofNat n := by
    intro c hc
    rw [EdgeEntry.condition_of_ofEdge hkept, Condition.calls_guard] at hc
    obtain ⟨p, hsigned⟩ := hbuilt.exists_signed hf he hc
    refine Call.answers_of_signed_builtin hsigned (fun hmessage => ?_) nodeArgs
    obtain ⟨node, _, _, hnode, hsource, -⟩ := hbuilt.exists_task_of_requiresMessage hf he hc hmessage
    exact ⟨node, hnode, hresults node hsource⟩
  have hfire : ft.shouldFire i .builtin results nodeArgs = entry.condition.evaluate .builtin results nodeArgs := by
    rw [FlowTable.shouldFire, hentry]
  rw [hfire]
  cases hvalue : entry.condition.evaluate .builtin results nodeArgs with
  | ok b => exact Or.inl ⟨b, rfl⟩
  | error err =>
    obtain ⟨c, hc, herror⟩ := Guard.exists_call_of_evaluate_eq_error hvalue
    rcases hcalls c hc with ⟨b, hok⟩ | ⟨hlength, hcompares⟩
    · rw [hok] at herror
      cases herror
    · rw [hlength] at herror
      cases herror
      exact Or.inr ⟨rfl, c, hc, hcompares⟩

/-- A length that is compared with a natural number, below a negation. -/
theorem shouldFire_builtin_answers_length :
    let docs : Documents := {
      nodes := {
        flows := ["f"]
        tasks := [{ name := "a", moduleName := "app", storage := some "s" }, { name := "b", moduleName := "app" }]
        storages := [{ name := "s", moduleName := "app" }] }
      flows := [⟨[{
        name := "f"
        edges := [{ sources := some [], targets := some ["a"] }, {
          sources := some ["a"]
          targets := some ["b"]
          condition := some (.table [("not", .table [("name", .str "fieldLenLess"),
            ("args", .table [("key", .str "items"), ("length", .int 2)])])]) }] }]⟩] }
    let config : Configuration := ⟨docs.nodes, docs.definitions⟩
    docs.check.result = .ok config ∧ ∃ table ft, (compileWith (fun _ => "") config .builtin).result = .ok table ∧
      table.flows.get? "f" = some ft ∧ ∃ b, ft.shouldFire 1 .builtin (fun _ => some .null) none = .ok b := by
  intro docs config
  have hconfig : docs.check.result = .ok config := rfl
  have hcompiles : ((compileWith (fun _ => "") config .builtin).result.toOption.any fun table =>
      (table.flows.get? "f").any fun ft => ft.edges[1]?.any fun e => e.condition.calls.all fun c =>
        c.args.get? "length" == some (.ofNat 2)) = true := by decide
  obtain ⟨table, htable, h⟩ := Except.toOption_any_iff.1 hcompiles
  simp only [Option.any_eq_true, List.all_eq_true, beq_iff_eq] at h
  obtain ⟨ft, hft, entry, hentry, hcalls⟩ := h
  refine ⟨hconfig, table, ft, htable, hft, ?_⟩
  have hresults : ∀ node ∈ entry.sources, ((fun _ => some .null : Results) node).isSome := fun _ _ => rfl
  rcases shouldFire_builtin_answers hconfig htable hft hentry hresults none with
    hok | ⟨-, c, hc, -, length, hlength, hnot⟩
  · exact hok
  · rw [hcalls c hc] at hlength
    exact absurd (Option.some.inj hlength).symm (hnot 2)

end TaskFlow
