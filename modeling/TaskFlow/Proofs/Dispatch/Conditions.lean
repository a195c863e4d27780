import TaskFlow.Dispatch.Query
import TaskFlow.Proofs.Condition.Meaning
import TaskFlow.Proofs.Dispatch.Table
import TaskFlow.Proofs.System.Build

/-!
# Conditions in a dispatch table

- `Edge.meaning_of_ofDecl`: the condition of an edge that is read means what its declaration means;
- `compileWith_keeps_conditions`: what `shouldFire` answers for an edge of a compiled flow is the meaning of the
  condition in the document. Calls without a module are of the module that the `[global]` section of the document names,
  else of `flowdag.predicates`.
-/

namespace TaskFlow

/-- The condition of an edge that is read means what the declaration means. -/
theorem Edge.meaning_of_ofDecl {scope : Scope} {decl : EdgeDecl} {e : Edge} (h : Edge.ofDecl scope decl = .ok e)
    (results : Results) (nodeArgs : Option Json) :
    Meaning.ofDecl scope.settings.predicatesModule scope.registry results nodeArgs (decl.sources.getD [])
      decl.condition = some (e.condition.guard.evaluate scope.registry results nodeArgs) := by
  obtain ⟨hends, hcondition, -⟩ := Edge.ofDecl_eq_ok_iff.1 h
  rw [(Edge.endsOf_eq_ok hends).1, Option.getD_some]
  exact Meaning.ofDecl_eq results nodeArgs hcondition

/-- **Compiling keeps the meaning of conditions**: for every edge of every flow, `shouldFire` answers what the condition
in the document means, be it true, false or an error. -/
theorem compileWith_keeps_conditions {digest : String → String} {docs : Documents} {config : Configuration}
    {registry : Registry} {table : DispatchTable} (hconfig : docs.check.result = .ok config)
    (htable : (compileWith digest config registry).result = .ok table) :
    ∀ d ∈ config.definitions, ∃ ft, table.flows.get? d.name = some ft ∧ ft.edges.length = d.edges.length ∧
      ∀ (i : Nat) decl results nodeArgs, d.edges[i]? = some decl →
        Meaning.ofDecl (config.nodes.globals.predicatesModule.getD "flowdag.predicates") registry results nodeArgs
          (decl.sources.getD []) decl.condition = some (ft.shouldFire i registry results nodeArgs) := by
  intro d hd
  rw [compileWith, Logged.result_mapError_eq_ok_iff] at htable
  obtain ⟨s, hs, htable⟩ := Logged.result_bind_eq_ok_iff.1 htable
  have hbuilt := System.builtFrom_of_build (Documents.accepted_of_check hconfig) hs
  obtain ⟨f, hf, hflow⟩ := hbuilt.flow_of_mem d hd
  obtain ⟨ft, hft, htable⟩ := DispatchTable.flow_of_ofSystem (fun _ _ => hbuilt.name_eq) htable hf
  obtain ⟨edges, _, _, _, _, hedges, -, -, -, -, -, rfl⟩ := Flow.ofDefinition_eq_ok_iff.1 hflow
  have hentries := FlowTable.edges_of_ofFlow htable
  refine ⟨ft, hft, by rw [← hentries.length_eq, hedges.length_eq], ?_⟩
  intro i decl results nodeArgs hdecl
  obtain ⟨e, he, hread⟩ := forall₂_getElem? hedges hdecl
  obtain ⟨entry, hentry, hkept⟩ := forall₂_getElem? hentries he
  have hmodule : s.settings.predicatesModule = config.nodes.globals.predicatesModule.getD "flowdag.predicates" := by
    rw [hbuilt.settings_eq]
    rfl
  have hmeaning : Meaning.ofDecl s.settings.predicatesModule registry results nodeArgs (decl.sources.getD [])
      decl.condition = some (e.condition.guard.evaluate registry results nodeArgs) :=
    Edge.meaning_of_ofDecl hread results nodeArgs
  unfold FlowTable.shouldFire
  rw [← hmodule, hmeaning, hentry, ← EdgeEntry.condition_of_ofEdge hkept]

/-- A flow of two tasks, the second one left out where the result of the first has the declared status. -/
theorem compileWith_keeps_conditions_negated :
    let docs : Documents := {
      nodes := {
        flows := ["f"]
        globals := { predicatesModule := some "app.checks" }
        tasks := [{ name := "a", moduleName := "app", storage := some "s" }, { name := "b", moduleName := "app" }]
        storages := [{ name := "s", moduleName := "app" }] }
      flows := [⟨[{
        name := "f"
        edges := [{ sources := some [], targets := some ["a"] }, {
          sources := some ["a"]
          targets := some ["b"]
          condition := some (.table [("not", .table [
            ("name", .str "isStatus"), ("args", .table [("status", .str "done")])])]) }] }]⟩] }
    let config : Configuration := ⟨docs.nodes, docs.definitions⟩
    let registry := Registry.empty.registerPredicate ⟨"app.checks", "isStatus"⟩
      ⟨["message", "status"], some fun call => .ok (call.message == call.args.get? "status")⟩
    docs.check.result = .ok config ∧ ∃ table ft, (compileWith (fun _ => "") config registry).result = .ok table ∧
      table.flows.get? "f" = some ft ∧ ft.shouldFire 1 registry (fun _ => some (.str "done")) none = .ok false ∧
      ft.shouldFire 1 registry (fun _ => some (.str "open")) none = .ok true := by
  intro docs config registry
  have hconfig : docs.check.result = .ok config := rfl
  have hcompiles : (compileWith (fun _ => "") config registry).result.toBool = true := by decide
  cases htable : (compileWith (fun _ => "") config registry).result with
  | error e =>
    rw [htable] at hcompiles
    cases hcompiles
  | ok table =>
    obtain ⟨ft, hft, -, hmeaning⟩ := compileWith_keeps_conditions hconfig htable _ List.mem_cons_self
    have hdone := hmeaning 1 _ (fun _ => some (.str "done")) none rfl
    have hopen := hmeaning 1 _ (fun _ => some (.str "open")) none rfl
    exact ⟨hconfig, table, ft, rfl, hft, (Option.some.inj hdone).symm, (Option.some.inj hopen).symm⟩

end TaskFlow
