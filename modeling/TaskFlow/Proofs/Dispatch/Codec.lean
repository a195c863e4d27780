import TaskFlow.Dispatch.Codec
import TaskFlow.Proofs.Condition.Codec
import TaskFlow.Proofs.Json.Text

/-!
# Dispatch tables read back

- `DispatchTable.stored`: the JSON values that a table holds: arguments of calls and strategies, and configurations of
  storages;
- `DispatchTable.ofDraft?_toJson`: a written table is read back if those values are in key order, part by part: each
  record by its fields, each of them by the reader of its own;
- `DispatchTable.parse?_pretty`: the text of a table is read as the table.
-/

namespace TaskFlow

open Json (record?_draft required?_cons optional?_cons nullable? nullable?_ofOption listOf?_draft dict?_ofDict
  any?_draft)

/-! ## Failures -/

@[simp] theorem Fallback.ofDraft?_toJson (f : Fallback) : ofDraft? f.toJson.draft = some f := by
  cases f with
  | stopFlow => rfl
  | nodes names =>
    have hnames := Json.names?_ofNames names
    simp [toJson, Json.draft, Json.draftFields, ofDraft?, hnames]

@[simp] theorem Propagation.ofDraft?_toJson (p : Propagation) : ofDraft? p.toJson.draft = some p := by
  cases p with
  | flag on => rfl
  | nodes names =>
    show (Json.nameSet? (Json.ofNameSet names).draft).map Propagation.nodes = _
    rw [Json.nameSet?_ofNameSet, Option.map_some]

theorem FallbackEntry.ofDraft?_toJson {e : FallbackEntry} (h : ∀ v ∈ e.condition.stored, v.Normal) :
    ofDraft? e.toJson.draft = some e := by
  have hcondition := Guard.ofDraft?_toJson h
  rw [ofDraft?, toJson, record?_draft (by simp)]
  simp [required?_cons, hcondition]

theorem FailureNode.ofDraft?_toJson {n : FailureNode} (h : ∀ e ∈ n.fallbacks, ∀ v ∈ e.condition.stored, v.Normal) :
    ofDraft? n.toJson.draft = some n := by
  have hfallbacks := listOf?_draft fun e he => FallbackEntry.ofDraft?_toJson (h e he)
  have hnext : Json.dict? Json.nat? (Json.ofDict Json.ofNat n.next).draft = some n.next :=
    dict?_ofDict fun id _ => Json.nat?_ofNat id
  rw [ofDraft?, toJson, record?_draft (by simp)]
  simp [required?_cons, hfallbacks, hnext]

namespace FailureGraph

/-- The JSON values that the conditions of a graph hold. -/
def stored (g : FailureGraph) : List Json := g.nodes.flatMap fun n => n.fallbacks.flatMap fun e => e.condition.stored

theorem ofDraft?_toJson {g : FailureGraph} (h : ∀ v ∈ g.stored, v.Normal) : ofDraft? g.toJson.draft = some g := by
  have hentries : ∀ n ∈ g.nodes, ∀ e ∈ n.fallbacks, ∀ v ∈ e.condition.stored, v.Normal := fun n hn e he v hv =>
    h v (List.mem_flatMap.2 ⟨n, hn, List.mem_flatMap.2 ⟨e, he, hv⟩⟩)
  have hnodes : Json.listOf? FailureNode.ofDraft? (Json.arr (g.nodes.map FailureNode.toJson)).draft = some g.nodes :=
    listOf?_draft fun n hn => FailureNode.ofDraft?_toJson (hentries n hn)
  have hstarting : Json.dict? Json.nat? (Json.ofDict Json.ofNat g.starting).draft = some g.starting :=
    dict?_ofDict fun id _ => Json.nat?_ofNat id
  rw [ofDraft?, toJson, record?_draft (by simp)]
  simp [required?_cons, hnodes, hstarting]

end FailureGraph

/-! ## Edges -/

@[simp] theorem Foreach.ofDraft?_toJson (f : Foreach) : ofDraft? f.toJson.draft = some f := by
  rw [ofDraft?, toJson, record?_draft (by simp)]
  simp [required?_cons]

@[simp] theorem SelectiveEntry.ofDraft?_toJson (s : SelectiveEntry) : ofDraft? s.toJson.draft = some s := by
  have hplan : Json.dict? (Json.listOf? Json.nat?) (planToJson s.plan).draft = some s.plan :=
    dict?_ofDict fun edges _ => listOf?_draft fun i _ => Json.nat?_ofNat i
  rw [ofDraft?, toJson, record?_draft (by simp)]
  simp [required?_cons, hplan]

theorem EdgeEntry.ofDraft?_toJson {e : EdgeEntry} (h : ∀ v ∈ e.condition.stored, v.Normal) :
    ofDraft? e.toJson.draft = some e := by
  have hcondition := Guard.ofDraft?_toJson h
  have hforeach : nullable? Foreach.ofDraft? (Json.ofOption Foreach.toJson e.foreach).draft = some e.foreach :=
    nullable?_ofOption rfl fun f _ => f.ofDraft?_toJson
  have hselective : nullable? SelectiveEntry.ofDraft? (Json.ofOption SelectiveEntry.toJson e.selective).draft =
      some e.selective :=
    nullable?_ofOption rfl fun s _ => s.ofDraft?_toJson
  rw [ofDraft?, toJson, record?_draft (by simp)]
  simp [required?_cons, optional?_cons, hcondition, hforeach, hselective]

/-! ## Entries -/

@[simp] theorem CacheSpec.ofDraft?_toJson (c : CacheSpec) : ofDraft? c.toJson.draft = some c := by
  have hpolicy : CachePolicy.ofDraft? c.policy.toJson.draft = some c.policy := by
    cases c.policy <;> rfl
  rw [ofDraft?, toJson, record?_draft (by simp)]
  simp [required?_cons, hpolicy]

theorem nullable?_cache (c : Option CacheSpec) :
    nullable? CacheSpec.ofDraft? (Json.ofOption CacheSpec.toJson c).draft = some c :=
  nullable?_ofOption rfl fun c _ => c.ofDraft?_toJson

theorem nullable?_text (s : Option String) : nullable? Json.string? (Json.ofOption .str s).draft = some s :=
  nullable?_ofOption rfl fun s _ => Json.string?_draft s

theorem nullable?_throttling (w : Option UInt64) :
    nullable? Json.word64? (Json.ofOption Json.ofWord64 w).draft = some w :=
  nullable?_ofOption rfl fun w _ => Json.word64?_ofWord64 w

theorem Sampling.ofDraft?_toJson {s : Sampling} (h : ∀ v ∈ s.args.values, v.Normal) :
    ofDraft? s.toJson.draft = some s := by
  have hargs : Json.dict? Json.any? (Json.ofDict id s.args).draft = some s.args :=
    dict?_ofDict fun v hv => any?_draft (h v hv)
  rw [ofDraft?, toJson, record?_draft (by simp)]
  simp [required?_cons, hargs]

theorem TaskEntry.ofDraft?_toJson (t : TaskEntry) : ofDraft? t.toJson.draft = some t := by
  have hfunction : nullable? FunctionRef.ofDraft? (Json.ofOption FunctionRef.toJson t.selectiveRunFunction).draft =
      some t.selectiveRunFunction :=
    nullable?_ofOption rfl fun f _ => f.ofDraft?_toJson
  rw [ofDraft?, toJson, record?_draft (by simp)]
  dsimp only [Option.bind_eq_bind, Option.bind_some]
  -- one field at a time: the fields behind it are not looked at before it is read
  simp [↓Option.bind_eq_some_iff, required?_cons, optional?_cons, nullable?_text, nullable?_throttling, hfunction]

theorem StorageEntry.ofDraft?_toJson {s : StorageEntry} (h : s.configuration.Normal) :
    ofDraft? s.toJson.draft = some s := by
  rw [ofDraft?, toJson, record?_draft (by simp)]
  simp [required?_cons, optional?_cons, any?_draft h, nullable?_cache]

namespace FlowTable

/-- The JSON values that a flow holds. -/
def stored (f : FlowTable) : List Json :=
  (f.edges.flatMap fun e => e.condition.stored) ++ f.failures.stored ++ f.sampling.args.values

theorem ofDraft?_toJson {f : FlowTable} (h : ∀ v ∈ f.stored, v.Normal) : ofDraft? f.toJson.draft = some f := by
  simp only [stored, List.mem_append, or_imp, forall_and] at h
  obtain ⟨⟨hconditions, hrules⟩, hargs⟩ := h
  have hedges : Json.listOf? EdgeEntry.ofDraft? (Json.arr (f.edges.map EdgeEntry.toJson)).draft = some f.edges :=
    listOf?_draft fun e he => EdgeEntry.ofDraft?_toJson fun v hv => hconditions v (List.mem_flatMap.2 ⟨e, he, hv⟩)
  have hfailures := FailureGraph.ofDraft?_toJson hrules
  have hsampling := Sampling.ofDraft?_toJson hargs
  rw [ofDraft?, toJson, record?_draft (by simp)]
  dsimp only [Option.bind_eq_bind, Option.bind_some, propagationOf?]
  simp [↓Option.bind_eq_some_iff, required?_cons, optional?_cons, hedges, hfailures, hsampling, nullable?_throttling,
    nullable?_cache]

end FlowTable

@[simp] theorem GlobalSettings.ofDraft?_toJson (s : GlobalSettings) : ofDraft? s.toJson.draft = some s := by
  rw [ofDraft?, toJson, record?_draft (by simp)]
  simp [required?_cons, optional?_cons, nullable?_text]

/-! ## Tables -/

namespace DispatchTable

variable {t : DispatchTable}

/-- The JSON values that a table holds. -/
def stored (t : DispatchTable) : List Json :=
  t.flows.values.flatMap FlowTable.stored ++ t.storages.values.map (·.configuration)

theorem ofDraft?_toJson (h : ∀ v ∈ t.stored, v.Normal) : ofDraft? t.toJson.draft = some t := by
  simp only [stored, List.mem_append, or_imp, forall_and] at h
  obtain ⟨hflowValues, hconfigurations⟩ := h
  have hflows : Json.dict? FlowTable.ofDraft? (Json.ofDict FlowTable.toJson t.flows).draft = some t.flows :=
    dict?_ofDict fun f hf => FlowTable.ofDraft?_toJson fun v hv => hflowValues v (List.mem_flatMap.2 ⟨f, hf, hv⟩)
  have htasks : Json.dict? TaskEntry.ofDraft? (Json.ofDict TaskEntry.toJson t.tasks).draft = some t.tasks :=
    dict?_ofDict fun e _ => e.ofDraft?_toJson
  have hstorages : Json.dict? StorageEntry.ofDraft? (Json.ofDict StorageEntry.toJson t.storages).draft =
      some t.storages :=
    dict?_ofDict fun s hs => StorageEntry.ofDraft?_toJson (hconfigurations _ (List.mem_map_of_mem hs))
  rw [ofDraft?, toJson, record?_draft (by simp)]
  simp [required?_cons, hflows, htasks, hstorages]

/-- **Reading undoes writing** for every table whose JSON values are in key order: the table is read from its text by
any reader of JSON that gives the written value back, so at any depth; and by the reader of tables itself if the numbers
of the table are integers of 64 bits and the table is nested no deeper than it reads. -/
theorem parse?_pretty (t : DispatchTable) (hstored : ∀ v ∈ t.stored, v.Normal) :
    (∀ read : String → Option Json.Draft,
        read t.pretty = some t.toJson.draft → (read t.pretty).bind ofDraft? = some t) ∧
      (t.toJson.Whole → t.toJson.depth < Json.depthLimit → parse? t.pretty = some t) := by
  have hread : ∀ read : String → Option Json.Draft,
      read t.pretty = some t.toJson.draft → (read t.pretty).bind ofDraft? = some t := by
    intro read htree
    rw [htree, Option.bind_some, ofDraft?_toJson hstored]
  refine ⟨hread, fun hwhole hdepth => ?_⟩
  exact hread Json.Draft.parse? (Json.Draft.parse?_indented hwhole hdepth)

/-- A table with a nested condition, a failure that stops the flow and one that starts a node. -/
def orders : DispatchTable where
  fingerprint := ""
  settings := ⟨"predicates", "tasks", "dispatchers", ["log"], none⟩
  flows := ⟨[("orders", {
    queue := "dispatchers"
    edges := [{
      sources := ["pack", "pay"]
      targets := ["ship"]
      condition := .any [.negate (.call {
        function := ⟨"predicates", "fieldEqual"⟩
        node := some "pay"
        args := ⟨[("key", .arr [.str "total"]), ("value", .obj [("cents", .num (.int (-5))), ("unit", .null)])],
          by decide⟩
        requiresMessage := true
        requiresNodeArgs := false }), .all []]
      conditionText := "(not fieldEqual(pay))"
      foreach := none
      selective := some ⟨["ship"], .nodes ⟨["orders"], by decide⟩, true, ⟨[("orders", [0])], by decide⟩⟩ }]
    failures := {
      nodes := [
        ⟨⟨["pack"], by decide⟩, ⟨[("pay", 1)], by decide⟩, [⟨.stopFlow, .always, "True", false⟩]⟩,
        ⟨⟨["pack", "pay"], by decide⟩, ⟨[], by decide⟩, [⟨.nodes ["refund"], .always, "True", true⟩]⟩]
      starting := ⟨[("pack", 0)], by decide⟩ }
    nowait := ⟨["log"], by decide⟩
    eagerFailures := .empty
    propagation := {}
    nodeArgsFromFirst := false
    throttling := some 60
    sampling := ⟨⟨"strategies", "constant"⟩, ⟨[("retry", .num (.int 30))], by decide⟩⟩
    maxRetry := 3
    retryCountdown := 10
    cache := some ⟨.lru, 5⟩ })], by decide⟩
  tasks := ⟨[("ship", ⟨"Ship", "shop.ship", "tasks", none, false, "ship", 3, 10, none, none, some "ship.json"⟩)],
    by decide⟩
  storages := ⟨[("disk", ⟨"Disk", "shop.disk", .obj [("path", .str "/\"tmp\"\n")], none⟩)], by decide⟩

/-- The text of a table is read by the reader of JSON text. -/
theorem parse?_pretty_orders :
    (∀ v ∈ orders.stored, v.Normal) ∧ Json.Draft.parse? orders.pretty = some orders.toJson.draft ∧
      (Json.Draft.parse? orders.pretty).bind ofDraft? = some orders ∧ parse? orders.pretty = some orders := by
  have hstored : ∀ v ∈ orders.stored, v.Normal := by decide
  have hwhole : orders.toJson.Whole := by decide
  have hdepth : orders.toJson.depth < Json.depthLimit := by decide
  have hread : Json.Draft.parse? orders.pretty = some orders.toJson.draft := Json.Draft.parse?_indented hwhole hdepth
  exact ⟨hstored, hread, (parse?_pretty orders hstored).1 _ hread, (parse?_pretty orders hstored).2 hwhole hdepth⟩

end DispatchTable

end TaskFlow
