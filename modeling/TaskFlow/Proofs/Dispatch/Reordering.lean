import TaskFlow.Proofs.Dispatch.Fingerprint
import TaskFlow.Proofs.System.Build

/-!
# The order of declarations

- `Documents.Reordered`: documents with the same declarations in another order, definitions also in other documents;
- `Documents.Reordered.check`: they pass the structural checks together, and what is accepted is reordered the same way;
- `Configuration.Reordered.build`: reordered configurations are built into one system, not merely into similar ones,
  since all its parts are kept by name;
- `Documents.compile_reordered`: so they are compiled into one table.
-/

namespace TaskFlow

/-- The same declarations of tasks, storages and flows in another order. -/
structure NodesDocument.Reordered (a b : NodesDocument) : Prop where
  globals : a.globals = b.globals
  tasks : a.tasks.Perm b.tasks
  storages : a.storages.Perm b.storages
  flows : a.flows.Perm b.flows

namespace NodesDocument.Reordered

variable {a b : NodesDocument}

theorem symm (h : a.Reordered b) : b.Reordered a := ⟨h.globals.symm, h.tasks.symm, h.storages.symm, h.flows.symm⟩

theorem declaredNames (h : a.Reordered b) : a.declaredNames.Perm b.declaredNames :=
  ((h.tasks.map _).append (h.flows.map _)).append (h.storages.map _)

theorem check (h : a.Reordered b) (ha : a.check = .ok ()) : b.check = .ok () := by
  obtain ⟨hvalid, hnodup, hne⟩ := NodesDocument.check_eq_ok_iff.1 ha
  have hnames := h.declaredNames
  refine NodesDocument.check_eq_ok_iff.2 ⟨fun n hn => hvalid n (hnames.mem_iff.2 hn), ?_, fun hnil => hne ?_⟩
  · exact (hnames.map Prod.fst).nodup hnodup
  · exact (hnil ▸ h.flows).eq_nil

end NodesDocument.Reordered

/-- The same definitions of flows too, in another order. -/
structure Configuration.Reordered (a b : Configuration) : Prop where
  nodes : a.nodes.Reordered b.nodes
  definitions : a.definitions.Perm b.definitions

/-- The same declarations in another order: tasks, storages and names of flows in the nodes document, and definitions
in whichever flow documents. A definition keeps its edges and rules in order. -/
structure Documents.Reordered (a b : Documents) : Prop where
  nodes : a.nodes.Reordered b.nodes
  definitions : a.definitions.Perm b.definitions

/-! ## Structural checks -/

namespace Documents.Reordered

variable {a b : Documents} {config : Configuration}

theorem symm (h : a.Reordered b) : b.Reordered a := ⟨h.nodes.symm, h.definitions.symm⟩

/-- Reordered documents are accepted too, as a reordered configuration. -/
theorem check (h : a.Reordered b) (ha : a.check.result = .ok config) :
    ∃ config', b.check.result = .ok config' ∧ config.Reordered config' := by
  obtain ⟨hcheck, hnodup, hdeclared, hnodes, hdefinitions⟩ :=
    Documents.configuration_eq_ok_iff.1 (Documents.check_eq_ok_iff.1 ha)
  have hread : List.Forall₂ (fun name d => d ∈ b.definitions ∧ d.name = name) a.nodes.flows config.definitions :=
    hdefinitions.imp fun name d hd => ⟨h.definitions.mem_iff.1 hd.1, hd.2⟩
  obtain ⟨definitions, hreordered, hback⟩ := List.perm_comp_forall₂ h.nodes.flows.symm hread
  refine ⟨⟨b.nodes, definitions⟩, ?_, hnodes ▸ h.nodes, hback.symm⟩
  rw [Documents.check_eq_ok_iff, Documents.configuration_eq_ok_iff]
  refine ⟨h.nodes.check hcheck, ?_, ?_, rfl, hreordered⟩
  · exact (h.definitions.map _).nodup hnodup
  · intro d hd
    exact h.nodes.flows.mem_iff.1 (hdeclared d (h.definitions.mem_iff.2 hd))

end Documents.Reordered

/-! ## Systems -/

/-- Items read off declarations under the names of these: another order of the declarations gives the same. -/
theorem Dict.exists_ofList_eq {α γ : Type} {R : γ → String × α → Prop} {key : γ → String} {cs ds : List γ}
    {fs : List (String × α)} (hperm : cs.Perm ds) (hnodup : (cs.map key).Nodup) (hfs : List.Forall₂ R cs fs)
    (hkey : ∀ c f, R c f → f.1 = key c) : ∃ gs, List.Forall₂ R ds gs ∧ Dict.ofList gs = Dict.ofList fs := by
  obtain ⟨gs, hgs, hback⟩ := List.perm_comp_forall₂ hperm.symm hfs
  have hkeys : cs.map key = fs.map Prod.fst :=
    map_eq_map_of_forall₂ (hfs.imp fun c f h => (hkey c f h).symm)
  exact ⟨gs, hgs, (Dict.ofList_perm hback.symm (hkeys ▸ hnodup)).symm⟩

namespace Configuration

variable {a b : Configuration} {registry : Registry} {s : System}

/-- Reordered configurations are built into the same system. -/
theorem Reordered.build (h : a.Reordered b) (ha : a.Accepted) (hs : (System.build a registry).result = .ok s) :
    (System.build b registry).result = .ok s := by
  obtain ⟨hsinks, storages, tasks, flows, hstorages, htasks, hflows, hsystem, hchecked⟩ := System.build_eq_ok_iff.1 hs
  have hscope : System.scopeOf a registry s = System.scopeOf b registry s := by
    rw [System.scopeOf, System.scopeOf, NameSet.ofList_perm h.nodes.flows]
  obtain ⟨storages', hstorages', hsameStorages⟩ :=
    Dict.exists_ofList_eq h.nodes.storages ha.nodup_storages hstorages fun _ _ => System.key_of_buildStorage
  obtain ⟨tasks', htasks', hsameTasks⟩ :=
    Dict.exists_ofList_eq h.nodes.tasks ha.nodup_tasks htasks fun _ _ => System.key_of_buildTask
  obtain ⟨flows', hflows', hsameFlows⟩ :=
    Dict.exists_ofList_eq h.definitions ha.nodup_definitions hflows fun _ _ hf => (System.buildFlow_eq_ok_iff.1 hf).1
  rw [← hsameStorages] at htasks'
  rw [hscope] at hflows'
  rw [h.nodes.globals] at hsinks
  refine System.build_eq_ok_iff.2 ⟨hsinks, storages', tasks', flows', hstorages', htasks', hflows', ?_, hchecked⟩
  rw [hsameStorages, hsameTasks, hsameFlows, ← h.nodes.globals]
  exact hsystem

end Configuration

/-! ## Tables -/

namespace Documents

variable {a b : Documents} {registry : Registry} {t : DispatchTable}

theorem compile_eq_ok_iff :
    (a.compile registry).result = .ok t ↔
      ∃ config, a.check.result = .ok config ∧ (TaskFlow.compile config registry).result = .ok t := by
  constructor
  · intro h
    obtain ⟨config, hconfig, h⟩ := Logged.result_bind_eq_ok_iff.1 h
    exact ⟨config, Logged.result_mapError_eq_ok_iff.1 hconfig, h⟩
  · rintro ⟨config, hconfig, h⟩
    exact Logged.result_bind_eq_ok_iff.2 ⟨config, Logged.result_mapError_eq_ok_iff.2 hconfig, h⟩

theorem Reordered.compile (h : a.Reordered b) (ha : (a.compile registry).result = .ok t) :
    (b.compile registry).result = .ok t := by
  obtain ⟨config, hconfig, ht⟩ := compile_eq_ok_iff.1 ha
  obtain ⟨s, hs, htable⟩ := compileWith_eq_ok_iff.1 ht
  obtain ⟨config', hconfig', hreordered⟩ := h.check hconfig
  have hs' := hreordered.build (accepted_of_check hconfig) hs
  exact compile_eq_ok_iff.2 ⟨config', hconfig', compileWith_eq_ok_iff.2 ⟨s, hs', htable⟩⟩

/-- **The order of declarations does not matter**: reordered documents are compiled together or not at all, and into
one table, fingerprint included. -/
theorem compile_reordered (h : a.Reordered b) (registry : Registry) :
    (a.compile registry).result.toOption = (b.compile registry).result.toOption := by
  refine Option.ext fun t => ?_
  rw [Except.toOption_eq_some_iff, Except.toOption_eq_some_iff]
  exact ⟨h.compile, h.symm.compile⟩

/-- Two tasks, two storages and two flows, then the same backwards with each definition in a document of its own. -/
theorem compile_reordered_backwards :
    let f : FlowDefinition := {
      name := "f"
      edges := [{ sources := some [], targets := some ["a"] }, { sources := some ["a"], targets := some ["g"] }] }
    let g : FlowDefinition := {
      name := "g"
      edges := [{ sources := some [], targets := some ["b"] }]
      failures := [{ nodes := ["b"], fallback := .nodes ["a"] }] }
    let first : TaskDecl := { name := "a", moduleName := "app", storage := some "s" }
    let second : TaskDecl := { name := "b", moduleName := "app", storage := some "t" }
    let storages : List StorageDecl := [{ name := "s", moduleName := "app" }, { name := "t", moduleName := "app" }]
    let docs : Documents := {
      nodes := { flows := ["f", "g"], tasks := [first, second], storages := storages }
      flows := [⟨[f, g]⟩] }
    let docs' : Documents := {
      nodes := { flows := ["g", "f"], tasks := [second, first], storages := storages.reverse }
      flows := [⟨[g]⟩, ⟨[f]⟩] }
    docs.Reordered docs' ∧ ∃ t, (docs.compile .builtin).result = .ok t ∧ (docs'.compile .builtin).result = .ok t := by
  intro f g first second storages docs docs'
  have hreordered : docs.Reordered docs' :=
    ⟨⟨rfl, .swap _ _ _, (List.reverse_perm storages).symm, .swap _ _ _⟩, .swap _ _ _⟩
  have hconfig : docs.check.result = .ok ⟨docs.nodes, docs.definitions⟩ := by
    subst docs first second storages f g
    rfl
  have hcompiles : ((compileWith (fun _ => "") ⟨docs.nodes, docs.definitions⟩ .builtin).result.toOption.any
      fun _ => true) = true := by decide
  obtain ⟨t, ht, -⟩ := Except.toOption_any_iff.1 hcompiles
  have hdocs : (docs.compile .builtin).result = .ok (t.sign digest) :=
    compile_eq_ok_iff.2 ⟨⟨docs.nodes, docs.definitions⟩, hconfig, compileWith_sign ht digest⟩
  have hsame := compile_reordered hreordered .builtin
  rw [hdocs] at hsame
  exact ⟨hreordered, t.sign digest, hdocs, Except.toOption_eq_some_iff.1 hsame.symm⟩

end Documents

end TaskFlow
