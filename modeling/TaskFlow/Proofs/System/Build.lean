import TaskFlow.Proofs.Data.Dict
import TaskFlow.Proofs.Data.NameSet
import TaskFlow.Proofs.Document.Configuration
import TaskFlow.System.Build

/-!
# What a built system consists of

- `Flow.ofDefinition_eq_ok_iff`, `Edge.ofDecl_eq_ok_iff`: a flow and an edge as read, with everything that was checked;
- `System.BuiltFrom`: the flows of a system are those of the definitions, by name, and each one passed its checks; its
  tasks store their results in its storages;
- `build_eq_ok_iff`, `builtFrom_of_build`: `System.build` gives such a system.
-/

namespace TaskFlow

/-- An edge that is read has the ends and the condition of its declaration, and passed the checks on them. -/
theorem Edge.ofDecl_eq_ok_iff {s : Scope} {decl : EdgeDecl} {e : Edge} :
    Edge.ofDecl s decl = .ok e ↔
      Edge.endsOf s decl = .ok (e.sources, e.targets) ∧
      Condition.ofDecl s e.sources decl.condition = .ok e.condition ∧
      e.condition.check s e.sources (!e.sources.isEmpty) = .ok () ∧
      Edge.foreachOf s.registry decl.foreach = .ok e.foreach ∧
      Edge.selectiveOf e.targets decl.selective = .ok e.selective := by
  constructor
  · intro h
    obtain ⟨⟨sources, targets⟩, hends, h⟩ := Except.bind_eq_ok_iff.1 h
    obtain ⟨condition, hcondition, h⟩ := Except.bind_eq_ok_iff.1 h
    obtain ⟨_, hcheck, h⟩ := Except.bind_eq_ok_iff.1 h
    obtain ⟨foreach, hforeach, h⟩ := Except.bind_eq_ok_iff.1 h
    obtain ⟨selective, hselective, h⟩ := Except.bind_eq_ok_iff.1 h
    cases h
    rw [Except.mapError_eq_ok_iff] at hcondition hcheck
    exact ⟨hends, hcondition, hcheck, hforeach, hselective⟩
  · rintro ⟨hends, hcondition, hcheck, hforeach, hselective⟩
    refine Except.bind_eq_ok_iff.2 ⟨_, hends, ?_⟩
    refine Except.bind_eq_ok_iff.2 ⟨_, Except.mapError_eq_ok_iff.2 hcondition, ?_⟩
    refine Except.bind_eq_ok_iff.2 ⟨_, Except.mapError_eq_ok_iff.2 hcheck, ?_⟩
    refine Except.bind_eq_ok_iff.2 ⟨_, hforeach, ?_⟩
    exact Except.bind_eq_ok_iff.2 ⟨_, hselective, rfl⟩

/-- Both ends of an edge are those of its declaration, and its nodes are known. -/
theorem Edge.endsOf_eq_ok {s : Scope} {decl : EdgeDecl} {sources targets : List String}
    (h : Edge.endsOf s decl = .ok (sources, targets)) :
    decl.sources = some sources ∧ decl.targets = some targets ∧ targets ≠ [] ∧
      ∀ node ∈ sources ++ targets, (s.kind? node).isSome := by
  unfold Edge.endsOf at h
  split at h
  · cases h
  · cases h
  · rename_i hsources hne
    split at h
    · cases h
    · rename_i hfind
      cases h
      refine ⟨hsources, ?_, fun hnil => hne hnil, fun node hnode => ?_⟩
      · cases htargets : decl.targets with
        | none =>
          rw [htargets] at hne
          exact absurd rfl hne
        | some targets => rfl
      · have hknown := List.find?_eq_none.1 hfind node hnode
        rw [Option.isNone_iff_eq_none] at hknown
        exact Option.isSome_iff_ne_none.2 hknown

/-- An edge that is read has a destination. -/
theorem Edge.targets_ne_nil_of_ofDecl {s : Scope} {decl : EdgeDecl} {e : Edge} (h : Edge.ofDecl s decl = .ok e) :
    e.targets ≠ [] := by
  obtain ⟨hends, -⟩ := Edge.ofDecl_eq_ok_iff.1 h
  obtain ⟨-, -, hne, -⟩ := Edge.endsOf_eq_ok hends
  exact hne

/-- A flow that is built has the edges and the rules of its definition, and its edges passed their checks. -/
theorem Flow.ofDefinition_eq_ok_iff {s : Scope} {d : FlowDefinition} {f : Flow} :
    (Flow.ofDefinition s d).result = .ok f ↔
      ∃ edges rules cache throttling sampling,
        List.Forall₂ (fun decl e => Edge.ofDecl s decl = .ok e) d.edges edges ∧
        List.Forall₂ (fun decl r => FailureRule.ofDecl s decl = .ok r) d.failures rules ∧
        CacheSpec.ofOptional d.cache = .ok cache ∧
        DurationSpec.throttling d.throttling = .ok throttling ∧
        Sampling.ofDecl s.registry d.sampling = .ok sampling ∧
        (∀ e ∈ edges, Edge.check s d.propagation.nodeArgs e = .ok ()) ∧
        f = ⟨d.name, edges, rules, NameSet.ofList d.nowait, NameSet.ofList d.eagerFailures, d.propagation,
          d.nodeArgsFromFirst, cache, sampling, throttling, d.maxRetry, d.retryCountdown, d.queue⟩ := by
  constructor
  · intro h
    obtain ⟨edges, hedges, h⟩ := Logged.result_bind_eq_ok_iff.1 h
    obtain ⟨rules, hrules, h⟩ := Logged.result_bind_eq_ok_iff.1 h
    obtain ⟨cache, hcache, h⟩ := Logged.result_bind_eq_ok_iff.1 h
    obtain ⟨throttling, hthrottling, h⟩ := Logged.result_bind_eq_ok_iff.1 h
    obtain ⟨_, -, h⟩ := Logged.result_bind_eq_ok_iff.1 h
    obtain ⟨_, -, h⟩ := Logged.result_bind_eq_ok_iff.1 h
    obtain ⟨_, -, h⟩ := Logged.result_bind_eq_ok_iff.1 h
    obtain ⟨sampling, hsampling, h⟩ := Logged.result_bind_eq_ok_iff.1 h
    obtain ⟨_, hcheck, h⟩ := Logged.result_bind_eq_ok_iff.1 h
    obtain ⟨_, -, h⟩ := Logged.result_bind_eq_ok_iff.1 h
    cases h
    rw [Logged.result_ofExcept, Except.mapError_eq_ok_iff] at hcache hthrottling hsampling hcheck
    exact ⟨edges, rules, cache, throttling, sampling, Logged.result_readAll_eq_ok_iff.1 hedges,
      Logged.result_readAll_eq_ok_iff.1 hrules, hcache, hthrottling, hsampling, Except.forM_eq_ok_iff.1 hcheck, rfl⟩
  · rintro ⟨edges, rules, cache, throttling, sampling, hedges, hrules, hcache, hthrottling, hsampling, hcheck, rfl⟩
    refine Logged.result_bind_eq_ok_iff.2 ⟨_, Logged.result_readAll_eq_ok_iff.2 hedges, ?_⟩
    refine Logged.result_bind_eq_ok_iff.2 ⟨_, Logged.result_readAll_eq_ok_iff.2 hrules, ?_⟩
    refine Logged.result_bind_eq_ok_iff.2 ⟨_, Except.mapError_eq_ok_iff.2 hcache, ?_⟩
    refine Logged.result_bind_eq_ok_iff.2 ⟨_, Except.mapError_eq_ok_iff.2 hthrottling, ?_⟩
    refine Logged.result_bind_eq_ok_iff.2 ⟨(), rfl, ?_⟩
    refine Logged.result_bind_eq_ok_iff.2 ⟨(), rfl, ?_⟩
    refine Logged.result_bind_eq_ok_iff.2 ⟨(), rfl, ?_⟩
    refine Logged.result_bind_eq_ok_iff.2 ⟨_, Except.mapError_eq_ok_iff.2 hsampling, ?_⟩
    refine Logged.result_bind_eq_ok_iff.2 ⟨(), Except.mapError_eq_ok_iff.2 (Except.forM_eq_ok_iff.2 hcheck), ?_⟩
    exact Logged.result_bind_eq_ok_iff.2 ⟨(), rfl, rfl⟩

theorem Flow.name_of_ofDefinition {s : Scope} {d : FlowDefinition} {f : Flow}
    (h : (Flow.ofDefinition s d).result = .ok f) : f.name = d.name := by
  obtain ⟨_, _, _, _, _, -, -, -, -, -, -, rfl⟩ := Flow.ofDefinition_eq_ok_iff.1 h
  rfl

namespace System

variable {config : Configuration} {registry : Registry} {s : System}

/-- What the definitions of a system refer to. -/
def scopeOf (config : Configuration) (registry : Registry) (s : System) : Scope :=
  ⟨s.settings, registry, s.tasks, NameSet.ofList config.nodes.flows⟩

/-- The flows of the system are those of the definitions, and each one passed its checks. Tasks and storages are kept
under their names, and a task has no storage but these. -/
structure BuiltFrom (config : Configuration) (registry : Registry) (s : System) : Prop where
  settings_eq : s.settings = GlobalSettings.ofDecl config.nodes.globals
  name_of_storage : ∀ name storage, s.storages.get? name = some storage → storage.name = name
  name_of_task : ∀ name t, s.tasks.get? name = some t → t.name = name
  storage_of_task : ∀ name t storage, s.tasks.get? name = some t → t.storage = some storage →
    s.storages.contains storage = true
  flow_of_mem : ∀ d ∈ config.definitions, ∃ f, s.flows.get? d.name = some f ∧
    (Flow.ofDefinition (scopeOf config registry s) d).result = .ok f
  definition_of_flow : ∀ name f, s.flows.get? name = some f → ∃ d ∈ config.definitions, d.name = name ∧
    (Flow.ofDefinition (scopeOf config registry s) d).result = .ok f
  checked : ∀ name f, s.flows.get? name = some f → (s.checkFlow f).result = .ok ()

theorem name_of_buildStorage {decl : StorageDecl} {entry : String × Storage} (h : buildStorage decl = .ok entry) :
    entry.2.name = entry.1 := by
  unfold buildStorage at h
  split at h
  · cases h
    rfl
  · cases h

theorem key_of_buildStorage {decl : StorageDecl} {entry : String × Storage} (h : buildStorage decl = .ok entry) :
    entry.1 = decl.name := by
  unfold buildStorage at h
  split at h
  · rename_i storage hstorage
    cases h
    obtain ⟨cache, -, h⟩ := Except.bind_eq_ok_iff.1 hstorage
    cases h
    rfl
  · cases h

/-- A task that is built stands under its name, and its storage is declared. -/
theorem buildTask_eq_ok {storages : Dict Storage} {decl : TaskDecl} {entry : String × Task}
    (h : (buildTask registry storages decl).result = .ok entry) :
    entry.2.name = entry.1 ∧ ∀ storage, entry.2.storage = some storage → storages.contains storage = true := by
  obtain ⟨t, -, h⟩ := Logged.result_bind_eq_ok_iff.1 h
  split at h
  · rename_i hnone
    cases h
    refine ⟨rfl, fun storage hstorage => ?_⟩
    rw [hnone] at hstorage
    cases hstorage
  · rename_i storage hsome
    split at h
    · rename_i hcontains
      cases h
      refine ⟨rfl, fun storage' hstorage => ?_⟩
      rw [hsome] at hstorage
      cases hstorage
      exact hcontains
    · cases h

theorem key_of_buildTask {storages : Dict Storage} {decl : TaskDecl} {entry : String × Task}
    (h : (buildTask registry storages decl).result = .ok entry) : entry.1 = decl.name := by
  obtain ⟨t, ht, h⟩ := Logged.result_bind_eq_ok_iff.1 h
  have hname : t.name = decl.name := by
    rw [Logged.result_mapError_eq_ok_iff] at ht
    obtain ⟨_, -, ht⟩ := Logged.result_bind_eq_ok_iff.1 ht
    dsimp only at ht
    split at ht
    · obtain ⟨_, hfail, -⟩ := Logged.result_bind_eq_ok_iff.1 ht
      cases hfail
    · obtain ⟨_, -, ht⟩ := Logged.result_bind_eq_ok_iff.1 ht
      obtain ⟨_, -, ht⟩ := Logged.result_bind_eq_ok_iff.1 ht
      obtain ⟨_, -, ht⟩ := Logged.result_bind_eq_ok_iff.1 ht
      cases ht
      rfl
  rw [← hname]
  split at h
  · cases h
    rfl
  · split at h
    · cases h
      rfl
    · cases h

/-- The flow of a definition, under its name. -/
theorem buildFlow_eq_ok_iff {scope : Scope} {d : FlowDefinition} {entry : String × Flow} :
    (buildFlow scope d).result = .ok entry ↔
      entry.1 = d.name ∧ (Flow.ofDefinition scope d).result = .ok entry.2 := by
  obtain ⟨name, f⟩ := entry
  constructor
  · intro h
    obtain ⟨f', hf', h⟩ := Logged.result_bind_eq_ok_iff.1 h
    cases h
    rw [Logged.result_mapError_eq_ok_iff] at hf'
    exact ⟨Flow.name_of_ofDefinition hf', hf'⟩
  · rintro ⟨rfl, hf⟩
    refine Logged.result_bind_eq_ok_iff.2 ⟨f, Logged.result_mapError_eq_ok_iff.2 hf, ?_⟩
    rw [Flow.name_of_ofDefinition hf]
    rfl

/-- A flow that is checked keeps every one of the rules. -/
theorem checkFlow_eq_ok_iff {f : Flow} :
    (s.checkFlow f).result = .ok () ↔
      f.checkStart = .ok () ∧ (s.checkSources f).result = .ok () ∧ Flow.checkDuplicates [] f.edges = .ok () ∧
      f.checkNowait = .ok () ∧ f.checkEagerFailures = .ok () ∧ (∀ r ∈ f.rules, f.checkRule r = .ok ()) ∧
      (s.checkPropagation f).result = .ok () ∧ ∀ e ∈ f.edges, s.checkSelectiveEdge e = .ok () := by
  constructor
  · intro h
    obtain ⟨_, hstart, h⟩ := Logged.result_bind_eq_ok_iff.1 h
    obtain ⟨_, hsources, h⟩ := Logged.result_bind_eq_ok_iff.1 h
    obtain ⟨_, hduplicates, h⟩ := Logged.result_bind_eq_ok_iff.1 h
    obtain ⟨_, hnowait, h⟩ := Logged.result_bind_eq_ok_iff.1 h
    obtain ⟨_, heager, h⟩ := Logged.result_bind_eq_ok_iff.1 h
    obtain ⟨_, hrules, h⟩ := Logged.result_bind_eq_ok_iff.1 h
    obtain ⟨_, hpropagation, hselective⟩ := Logged.result_bind_eq_ok_iff.1 h
    exact ⟨hstart, hsources, hduplicates, hnowait, heager, Except.forM_eq_ok_iff.1 hrules, hpropagation,
      Except.forM_eq_ok_iff.1 hselective⟩
  · rintro ⟨hstart, hsources, hduplicates, hnowait, heager, hrules, hpropagation, hselective⟩
    refine Logged.result_bind_eq_ok_iff.2 ⟨(), hstart, ?_⟩
    refine Logged.result_bind_eq_ok_iff.2 ⟨(), hsources, ?_⟩
    refine Logged.result_bind_eq_ok_iff.2 ⟨(), hduplicates, ?_⟩
    refine Logged.result_bind_eq_ok_iff.2 ⟨(), hnowait, ?_⟩
    refine Logged.result_bind_eq_ok_iff.2 ⟨(), heager, ?_⟩
    refine Logged.result_bind_eq_ok_iff.2 ⟨(), Except.forM_eq_ok_iff.2 hrules, ?_⟩
    exact Logged.result_bind_eq_ok_iff.2 ⟨(), hpropagation, Except.forM_eq_ok_iff.2 hselective⟩

theorem kind?_eq_flow {x : String} (h : s.kind? x = some .flow) : s.tasks.contains x = false := by
  unfold kind? node? at h
  cases htask : s.tasks.get? x with
  | some t =>
    rw [htask] at h
    cases h
  | none => rw [Dict.contains, htask, Option.isSome_none]

/-- Whatever a checked flow waits for it starts, if it is no flow. -/
theorem checkSources_eq_ok_iff {f : Flow} :
    (s.checkSources f).result = .ok () ↔
      ∀ node ∈ f.sourceNodes, node ∈ f.destinationNodes ∨ s.kind? node = some .flow := by
  have hsource : ∀ node, (s.checkSource f node).result = .ok () ↔
      node ∈ f.destinationNodes ∨ s.kind? node = some .flow := by
    intro node
    unfold checkSource
    rw [← NameSet.contains_iff]
    split
    · rename_i hstarted
      exact iff_of_true rfl (Or.inl hstarted)
    · rename_i hstarted
      split
      · rename_i hkind
        exact iff_of_true rfl (Or.inr hkind)
      · rename_i hkind
        exact iff_of_false nofun (not_or.2 ⟨hstarted, hkind⟩)
  constructor
  · intro h node hnode
    obtain ⟨units, hunits, -⟩ := Logged.result_bind_eq_ok_iff.1 h
    obtain ⟨_, -, hchecked⟩ := forall₂_of_mem (Logged.result_forAll_eq_ok_iff.1 hunits) hnode
    exact (hsource node).1 hchecked
  · intro h
    obtain ⟨units, hunits⟩ := Logged.exists_result_forAll_eq_ok_iff.2 fun node hnode =>
      ⟨(), (hsource node).2 (h node hnode)⟩
    exact Logged.result_bind_eq_ok_iff.2 ⟨units, hunits, rfl⟩

/-- A selective run that is checked asks its flow for tasks that the flow runs, and names flows for what is to
follow. -/
theorem checkSelectiveEdge_eq_ok {e : Edge} {sel : Selective} (h : s.checkSelectiveEdge e = .ok ())
    (hsel : e.selective = some sel) :
    ∃ target, s.flows.get? (e.targets.headD "") = some target ∧
      (∀ task ∈ sel.tasks, s.runsTask target task sel.followSubflows = true) ∧
      ∀ x ∈ sel.runSubsequent.named, s.kind? x = some .flow := by
  rw [checkSelectiveEdge, hsel] at h
  cases htargets : e.targets with
  | nil =>
    rw [htargets] at h
    cases h
  | cons name names =>
    rw [htargets] at h
    simp only [List.head?_cons, Option.bind_some] at h
    split at h
    · cases h
    · rename_i target htarget
      unfold checkSelectiveRun at h
      split at h
      · cases h
      · rename_i hruns
        split at h
        · cases h
        · rename_i hflows
          refine ⟨target, htarget, fun task htask => ?_, fun x hx => ?_⟩
          · simpa using List.find?_eq_none.1 hruns task htask
          · simpa using List.find?_eq_none.1 hflows x hx

theorem checkFlows_eq_ok_iff :
    s.checkFlows.result = .ok () ↔ ∀ f ∈ s.flows.values, (s.checkFlow f).result = .ok () := by
  constructor
  · intro h f hf
    obtain ⟨units, hunits, -⟩ := Logged.result_bind_eq_ok_iff.1 h
    obtain ⟨_, -, hcheck⟩ := forall₂_of_mem (Logged.result_attemptAll_eq_ok_iff.1 hunits) hf
    exact Logged.result_mapError_eq_ok_iff.1 hcheck
  · intro h
    refine Logged.result_bind_eq_ok_iff.2 ⟨s.flows.values.map fun _ => (), ?_, rfl⟩
    rw [Logged.result_attemptAll_eq_ok_iff, List.forall₂_map_right_iff, List.forall₂_same]
    exact fun f hf => Logged.result_mapError_eq_ok_iff.2 (h f hf)

namespace BuiltFrom

variable {name : String} {f : Flow}

/-- An edge of a flow is read off a declaration in the definition of the flow. -/
theorem exists_edgeDecl (h : s.BuiltFrom config registry) (hf : s.flows.get? name = some f) {e : Edge}
    (he : e ∈ f.edges) :
    ∃ d ∈ config.definitions, d.name = name ∧ ∃ decl ∈ d.edges,
      Edge.ofDecl (scopeOf config registry s) decl = .ok e := by
  obtain ⟨d, hd, hname, hflow⟩ := h.definition_of_flow name f hf
  obtain ⟨edges, _, _, _, _, hedges, -, -, -, -, -, rfl⟩ := Flow.ofDefinition_eq_ok_iff.1 hflow
  obtain ⟨decl, hdecl, hread⟩ := forall₂_of_mem hedges.flip he
  exact ⟨d, hd, hname, decl, hdecl, hread⟩

/-- A rule of a flow is read off a declaration in the definition of the flow. -/
theorem exists_failureDecl (h : s.BuiltFrom config registry) (hf : s.flows.get? name = some f) {r : FailureRule}
    (hr : r ∈ f.rules) :
    ∃ d ∈ config.definitions, d.name = name ∧ ∃ decl ∈ d.failures,
      FailureRule.ofDecl (scopeOf config registry s) decl = .ok r := by
  obtain ⟨d, hd, hname, hflow⟩ := h.definition_of_flow name f hf
  obtain ⟨_, rules, _, _, _, -, hrules, -, -, -, -, rfl⟩ := Flow.ofDefinition_eq_ok_iff.1 hflow
  obtain ⟨decl, hdecl, hread⟩ := forall₂_of_mem hrules.flip hr
  exact ⟨d, hd, hname, decl, hdecl, hread⟩

/-- A selective run asks for a task at least. -/
theorem tasks_ne_nil (h : s.BuiltFrom config registry) (hf : s.flows.get? name = some f) {e : Edge} (he : e ∈ f.edges)
    {sel : Selective} (hsel : e.selective = some sel) : sel.tasks ≠ [] := by
  obtain ⟨_, -, -, decl, -, hread⟩ := h.exists_edgeDecl hf he
  obtain ⟨-, -, -, -, hselective⟩ := Edge.ofDecl_eq_ok_iff.1 hread
  rw [hsel] at hselective
  unfold Edge.selectiveOf at hselective
  split at hselective
  · cases hselective
  · split at hselective
    · cases hselective
    · rename_i hne
      cases hselective
      exact fun hnil => hne (List.isEmpty_iff.2 hnil)

/-- A flow is kept under its name. -/
theorem name_eq (h : s.BuiltFrom config registry) (hf : s.flows.get? name = some f) : f.name = name := by
  obtain ⟨d, -, rfl, hd⟩ := h.definition_of_flow name f hf
  exact Flow.name_of_ofDefinition hd

/-- Whatever a flow waits for it starts, if it is no flow. -/
theorem mem_destinationNodes_or_flow (h : s.BuiltFrom config registry) (hf : s.flows.get? name = some f) {node : String}
    (hnode : node ∈ f.sourceNodes) : node ∈ f.destinationNodes ∨ s.kind? node = some .flow := by
  obtain ⟨-, hsources, -⟩ := checkFlow_eq_ok_iff.1 (h.checked name f hf)
  exact checkSources_eq_ok_iff.1 hsources node hnode

/-- So a task that a flow waits for is started. -/
theorem mem_destinationNodes_of_task (h : s.BuiltFrom config registry) (hf : s.flows.get? name = some f) {node : String}
    (hnode : node ∈ f.sourceNodes) (htask : s.tasks.contains node = true) : node ∈ f.destinationNodes := by
  refine (h.mem_destinationNodes_or_flow hf hnode).resolve_right fun hflow => ?_
  rw [kind?_eq_flow hflow] at htask
  cases htask

/-- A selective run leads to a flow that runs its tasks. -/
theorem exists_selectiveTarget (h : s.BuiltFrom config registry) (hf : s.flows.get? name = some f) {e : Edge}
    (he : e ∈ f.edges) {sel : Selective} (hsel : e.selective = some sel) :
    ∃ target, s.flows.get? (e.targets.headD "") = some target ∧
      ∀ task ∈ sel.tasks, s.runsTask target task sel.followSubflows = true := by
  obtain ⟨-, -, -, -, -, -, -, hselective⟩ := checkFlow_eq_ok_iff.1 (h.checked name f hf)
  obtain ⟨target, htarget, hruns, -⟩ := checkSelectiveEdge_eq_ok (hselective e he) hsel
  exact ⟨target, htarget, hruns⟩

/-- What is to follow in a selective run are flows. -/
theorem kind?_of_mem_runSubsequent (h : s.BuiltFrom config registry) (hf : s.flows.get? name = some f) {e : Edge}
    (he : e ∈ f.edges) {sel : Selective} (hsel : e.selective = some sel) {x : String}
    (hx : x ∈ sel.runSubsequent.named) : s.kind? x = some .flow := by
  obtain ⟨-, -, -, -, -, -, -, hselective⟩ := checkFlow_eq_ok_iff.1 (h.checked name f hf)
  obtain ⟨_, -, -, hflows⟩ := checkSelectiveEdge_eq_ok (hselective e he) hsel
  exact hflows x hx

end BuiltFrom

/-- A system is built of what each of its declarations gives, each part under its name, and its flows are checked. -/
theorem build_eq_ok_iff :
    (build config registry).result = .ok s ↔
      checkTraceSinks registry (GlobalSettings.ofDecl config.nodes.globals) = .ok () ∧
      ∃ storages tasks flows,
        List.Forall₂ (fun decl entry => buildStorage decl = .ok entry) config.nodes.storages storages ∧
        List.Forall₂ (fun decl entry => (buildTask registry (Dict.ofList storages) decl).result = .ok entry)
          config.nodes.tasks tasks ∧
        List.Forall₂ (fun d entry => (buildFlow (scopeOf config registry s) d).result = .ok entry)
          config.definitions flows ∧
        s = ⟨GlobalSettings.ofDecl config.nodes.globals, Dict.ofList tasks, Dict.ofList flows, Dict.ofList storages⟩ ∧
        s.checkFlows.result = .ok () := by
  constructor
  · intro h
    obtain ⟨_, hsinks, h⟩ := Logged.result_bind_eq_ok_iff.1 h
    obtain ⟨storages, hstorages, h⟩ := Logged.result_bind_eq_ok_iff.1 h
    obtain ⟨tasks, htasks, h⟩ := Logged.result_bind_eq_ok_iff.1 h
    obtain ⟨flows, hflows, h⟩ := Logged.result_bind_eq_ok_iff.1 h
    obtain ⟨_, hchecked, h⟩ := Logged.result_bind_eq_ok_iff.1 h
    obtain ⟨_, -, h⟩ := Logged.result_bind_eq_ok_iff.1 h
    obtain ⟨_, -, h⟩ := Logged.result_bind_eq_ok_iff.1 h
    cases h
    exact ⟨hsinks, storages, tasks, flows, Except.mapM_eq_ok_iff.1 hstorages, Logged.result_forAll_eq_ok_iff.1 htasks,
      Logged.result_attemptAll_eq_ok_iff.1 hflows, rfl, hchecked⟩
  · rintro ⟨hsinks, storages, tasks, flows, hstorages, htasks, hflows, rfl, hchecked⟩
    refine Logged.result_bind_eq_ok_iff.2 ⟨(), hsinks, ?_⟩
    refine Logged.result_bind_eq_ok_iff.2 ⟨storages, Except.mapM_eq_ok_iff.2 hstorages, ?_⟩
    refine Logged.result_bind_eq_ok_iff.2 ⟨tasks, Logged.result_forAll_eq_ok_iff.2 htasks, ?_⟩
    refine Logged.result_bind_eq_ok_iff.2 ⟨flows, Logged.result_attemptAll_eq_ok_iff.2 hflows, ?_⟩
    refine Logged.result_bind_eq_ok_iff.2 ⟨(), hchecked, ?_⟩
    refine Logged.result_bind_eq_ok_iff.2 ⟨(), rfl, ?_⟩
    exact Logged.result_bind_eq_ok_iff.2 ⟨(), rfl, rfl⟩

/-- **A system is made of its definitions**: what is built has one checked flow for each definition, under its name. -/
theorem builtFrom_of_build (hconfig : config.Accepted) (h : (build config registry).result = .ok s) :
    s.BuiltFrom config registry := by
  obtain ⟨-, storages, tasks, flows, hstorages, htasks, hflows, rfl, hchecked⟩ := build_eq_ok_iff.1 h
  have hall : List.Forall₂ (fun d entry => entry.1 = d.name ∧ (Flow.ofDefinition _ d).result = .ok entry.2)
      config.definitions flows := hflows.imp fun _ _ h => buildFlow_eq_ok_iff.1 h
  have hkeys : config.definitions.map (·.name) = flows.map Prod.fst :=
    map_eq_map_of_forall₂ (hall.imp fun _ _ h => h.1.symm)
  have hflow : ∀ name f, (Dict.ofList flows).get? name = some f ↔ (name, f) ∈ flows := fun name f =>
    Dict.get?_ofList_eq_some_iff (hkeys ▸ hconfig.nodup_definitions)
  have hstorage : ∀ name storage, (Dict.ofList storages).get? name = some storage → storage.name = name := by
    intro name storage hget
    obtain ⟨_, -, hbuilt⟩ := forall₂_of_mem hstorages.flip (Dict.mem_of_get?_ofList hget)
    exact name_of_buildStorage hbuilt
  have htask : ∀ name t, (Dict.ofList tasks).get? name = some t → t.name = name ∧
      ∀ storage, t.storage = some storage → (Dict.ofList storages).contains storage = true := by
    intro name t hget
    obtain ⟨_, -, hbuilt⟩ := forall₂_of_mem htasks.flip (Dict.mem_of_get?_ofList hget)
    exact buildTask_eq_ok hbuilt
  refine ⟨rfl, hstorage, fun name t hget => (htask name t hget).1,
    fun name t storage hget hsome => (htask name t hget).2 storage hsome,
    fun d hd => ?_, fun name f hf => ?_, fun name f hf => ?_⟩
  · obtain ⟨⟨name, f⟩, hmem, rfl, hf⟩ := forall₂_of_mem hall hd
    exact ⟨f, (hflow _ f).2 hmem, hf⟩
  · obtain ⟨d, hd, hname, hf⟩ := forall₂_of_mem hall.flip ((hflow name f).1 hf)
    exact ⟨d, hd, hname.symm, hf⟩
  · exact checkFlows_eq_ok_iff.1 hchecked f (Dict.mem_values_iff.2 ⟨name, hf⟩)

end System

end TaskFlow
