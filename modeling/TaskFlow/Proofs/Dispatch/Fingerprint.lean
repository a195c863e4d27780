import TaskFlow.Dispatch.Compile
import TaskFlow.Proofs.Dispatch.Codec
import TaskFlow.Proofs.Dispatch.Table
import TaskFlow.Proofs.Json.Injective

/-!
# Fingerprints

- `DispatchTable.toJson_inj`: no two tables are written as one value, record by record;
- `DispatchTable.integral_toJson`: the numbers of a table are integers, apart from those in the values that it `stored`;
- `compileWith_seals_table`: a compiled table is the only one that carries its fingerprint, as far as texts have
  digests of their own.
-/

namespace TaskFlow

open Json (ofOption_inj ofDict_inj integral_ofOption integral_ofDict)

/-! ## Calls and guards -/

@[simp] theorem FunctionRef.toJson_inj {f g : FunctionRef} : f.toJson = g.toJson ↔ f = g := by
  cases f
  cases g
  simp [toJson]

@[simp] theorem FunctionRef.integral_toJson (f : FunctionRef) : f.toJson.Integral := by
  simp [toJson]

theorem ofOption_text_inj {s t : Option String} : Json.ofOption .str s = Json.ofOption .str t ↔ s = t :=
  ofOption_inj (fun _ _ h => Json.str.inj h) fun _ h => nomatch h

theorem ofDict_value_inj {d e : Dict Json} : Json.ofDict id d = Json.ofDict id e ↔ d = e :=
  ofDict_inj Function.injective_id

@[simp] theorem Call.toFields_inj {c d : Call} : c.toFields = d.toFields ↔ c = d := by
  cases c
  cases d
  simp [toFields, ofOption_text_inj, ofDict_value_inj]

theorem Call.integral_toFields {c : Call} (h : ∀ v ∈ c.args.values, v.Integral) : ∀ f ∈ c.toFields, f.2.Integral := by
  have hnode : (Json.ofOption .str c.node).Integral := integral_ofOption fun s _ => .str s
  have hargs : (Json.ofDict id c.args).Integral := integral_ofDict h
  simp [toFields, hnode, hargs]

namespace Guard

mutual

theorem toJson_inj : ∀ {g h : Guard}, g.toJson = h.toJson → g = h
  | .always, h, heq => by
    cases h <;> simp [toJson, GuardKind.text] at heq ⊢
  | .call c, h, heq => by
    cases h <;> simp [toJson, GuardKind.text] at heq ⊢
    exact heq
  | .all gs, h, heq => by
    cases h <;> simp [toJson, GuardKind.text] at heq ⊢
    exact toItems_inj heq
  | .any gs, h, heq => by
    cases h <;> simp [toJson, GuardKind.text] at heq ⊢
    exact toItems_inj heq
  | .negate g, h, heq => by
    cases h <;> simp [toJson, GuardKind.text] at heq ⊢
    exact toJson_inj heq

theorem toItems_inj : ∀ {gs hs : List Guard}, toItems gs = toItems hs → gs = hs
  | [], hs, heq => by
    cases hs with
    | nil => rfl
    | cons h hs => simp [toItems] at heq
  | g :: gs, hs, heq => by
    cases hs with
    | nil => simp [toItems] at heq
    | cons h hs =>
      obtain ⟨hg, hgs⟩ := List.cons.inj heq
      rw [toJson_inj hg, toItems_inj hgs]

end

mutual

theorem integral_toJson : ∀ g : Guard, (∀ v ∈ g.stored, v.Integral) → g.toJson.Integral
  | .always, _ => by simp [toJson]
  | .call c, h => by
    have hfields := Call.integral_toFields fun v hv => h v (by simpa [stored, calls] using hv)
    simpa [toJson] using hfields
  | .all gs, h => by
    have hitems := integral_toItems gs h
    simpa [toJson] using hitems
  | .any gs, h => by
    have hitems := integral_toItems gs h
    simpa [toJson] using hitems
  | .negate g, h => by
    have hchild := integral_toJson g h
    simp [toJson, hchild]

theorem integral_toItems : ∀ gs : List Guard, (∀ v ∈ (callsAll gs).flatMap (·.args.values), v.Integral) →
    ∀ j ∈ toItems gs, j.Integral
  | [], _ => by simp [toItems]
  | g :: gs, h => by
    rw [callsAll, List.flatMap_append] at h
    have hg := integral_toJson g fun v hv => h v (List.mem_append_left _ hv)
    have hgs := integral_toItems gs fun v hv => h v (List.mem_append_right _ hv)
    simpa [toItems, hg] using hgs

end

theorem toJson_injective : Function.Injective toJson := fun _ _ h => toJson_inj h

end Guard

/-! ## Failures -/

@[simp] theorem Fallback.toJson_inj {f g : Fallback} : f.toJson = g.toJson ↔ f = g := by
  cases f <;> cases g <;> simp [toJson]

@[simp] theorem Propagation.toJson_inj {p q : Propagation} : p.toJson = q.toJson ↔ p = q := by
  cases p with
  | flag on => cases q <;> simp [toJson, Json.ofNameSet, Json.ofNames]
  | nodes names =>
    cases q with
    | flag on => simp [toJson, Json.ofNameSet, Json.ofNames]
    | nodes names' => simp [toJson]

theorem FallbackEntry.toJson_injective : Function.Injective FallbackEntry.toJson := by
  intro e f h
  cases e
  cases f
  simpa [toJson, Guard.toJson_injective.eq_iff] using h

theorem FailureNode.toJson_injective : Function.Injective FailureNode.toJson := by
  intro m n h
  cases m
  cases n
  simpa [toJson, ofDict_inj fun _ _ => Json.ofNat_inj.1, FallbackEntry.toJson_injective.list_map.eq_iff] using h

theorem FailureGraph.toJson_injective : Function.Injective FailureGraph.toJson := by
  intro g h heq
  cases g
  cases h
  simpa [toJson, ofDict_inj fun _ _ => Json.ofNat_inj.1, FailureNode.toJson_injective.list_map.eq_iff] using heq

@[simp] theorem Fallback.integral_toJson (f : Fallback) : f.toJson.Integral := by
  cases f <;> simp [toJson]

@[simp] theorem Propagation.integral_toJson (p : Propagation) : p.toJson.Integral := by
  cases p <;> simp [toJson]

theorem FallbackEntry.integral_toJson {e : FallbackEntry} (h : ∀ v ∈ e.condition.stored, v.Integral) :
    e.toJson.Integral := by
  have hcondition := Guard.integral_toJson e.condition h
  simp [toJson, hcondition]

theorem FailureNode.integral_toJson {n : FailureNode} (h : ∀ e ∈ n.fallbacks, ∀ v ∈ e.condition.stored, v.Integral) :
    n.toJson.Integral := by
  have hnext : (Json.ofDict Json.ofNat n.next).Integral := integral_ofDict fun id _ => Json.integral_ofNat id
  have hfallbacks : ∀ e ∈ n.fallbacks, e.toJson.Integral := fun e he => FallbackEntry.integral_toJson (h e he)
  simpa [toJson, hnext] using hfallbacks

theorem FailureGraph.integral_toJson {g : FailureGraph} (h : ∀ v ∈ g.stored, v.Integral) : g.toJson.Integral := by
  have hstarting : (Json.ofDict Json.ofNat g.starting).Integral := integral_ofDict fun id _ => Json.integral_ofNat id
  have hnodes : ∀ n ∈ g.nodes, n.toJson.Integral := by
    intro n hn
    refine FailureNode.integral_toJson fun e he v hv => h v ?_
    exact List.mem_flatMap.2 ⟨n, hn, List.mem_flatMap.2 ⟨e, he, hv⟩⟩
  simpa [toJson, hstarting] using hnodes

/-! ## Entries -/

theorem CacheSpec.toJson_injective : Function.Injective CacheSpec.toJson := by
  rintro ⟨p, m⟩ ⟨q, n⟩ h
  have hpolicy : p.text = q.text → p = q := by
    cases p <;> cases q <;> decide
  simp [toJson, CachePolicy.toJson] at h
  rw [hpolicy h.1, h.2]

theorem Foreach.toJson_injective : Function.Injective Foreach.toJson := by
  intro f g h
  cases f
  cases g
  simpa [toJson] using h

theorem SelectiveEntry.toJson_injective : Function.Injective SelectiveEntry.toJson := by
  have hplan : Function.Injective fun edges : List Nat => Json.arr (edges.map Json.ofNat) := by
    intro is js h
    exact Function.Injective.list_map (fun _ _ => Json.ofNat_inj.1) (Json.arr.inj h)
  intro s t h
  cases s
  cases t
  simpa [toJson, planToJson, ofDict_inj hplan] using h

theorem EdgeEntry.toJson_injective : Function.Injective EdgeEntry.toJson := by
  intro e f h
  have hforeach : ∀ {f g : Option Foreach}, Json.ofOption Foreach.toJson f = Json.ofOption Foreach.toJson g ↔ f = g :=
    ofOption_inj Foreach.toJson_injective fun _ h => nomatch h
  have hselective : ∀ {s t : Option SelectiveEntry},
      Json.ofOption SelectiveEntry.toJson s = Json.ofOption SelectiveEntry.toJson t ↔ s = t :=
    ofOption_inj SelectiveEntry.toJson_injective fun _ h => nomatch h
  cases e
  cases f
  simpa [toJson, Guard.toJson_injective.eq_iff, hforeach, hselective] using h

theorem ofOption_cache_inj {c d : Option CacheSpec} :
    Json.ofOption CacheSpec.toJson c = Json.ofOption CacheSpec.toJson d ↔ c = d :=
  ofOption_inj CacheSpec.toJson_injective fun _ h => nomatch h

theorem ofOption_throttling_inj {v w : Option UInt64} :
    Json.ofOption Json.ofWord64 v = Json.ofOption Json.ofWord64 w ↔ v = w :=
  ofOption_inj (fun _ _ => Json.ofWord64_inj.1) fun _ h => nomatch h

@[simp] theorem Sampling.toJson_inj {s t : Sampling} : s.toJson = t.toJson ↔ s = t := by
  cases s
  cases t
  simp [toJson, ofDict_value_inj]

theorem TaskEntry.toJson_injective : Function.Injective TaskEntry.toJson := by
  intro s t h
  have hfunction : ∀ {f g : Option FunctionRef},
      Json.ofOption FunctionRef.toJson f = Json.ofOption FunctionRef.toJson g ↔ f = g :=
    ofOption_inj (fun _ _ => FunctionRef.toJson_inj.1) fun _ h => nomatch h
  cases s
  cases t
  simpa [toJson, ofOption_text_inj, ofOption_throttling_inj, hfunction] using h

theorem StorageEntry.toJson_injective : Function.Injective StorageEntry.toJson := by
  intro s t h
  cases s
  cases t
  simpa [toJson, ofOption_cache_inj] using h

theorem FlowTable.toJson_injective : Function.Injective FlowTable.toJson := by
  -- the flags stand among the fields of the flow
  rintro ⟨_, _, _, _, _, ⟨⟩, _⟩ ⟨_, _, _, _, _, ⟨⟩, _⟩ h
  simpa [toJson, EdgeEntry.toJson_injective.list_map.eq_iff, FailureGraph.toJson_injective.eq_iff,
    ofOption_throttling_inj, ofOption_cache_inj, and_assoc] using h

@[simp] theorem GlobalSettings.toJson_inj {s t : GlobalSettings} : s.toJson = t.toJson ↔ s = t := by
  cases s
  cases t
  simp [toJson, ofOption_text_inj]

@[simp] theorem Foreach.integral_toJson (f : Foreach) : f.toJson.Integral := by
  simp [toJson]

@[simp] theorem CacheSpec.integral_toJson (c : CacheSpec) : c.toJson.Integral := by
  simp [toJson, CachePolicy.toJson]

theorem SelectiveEntry.integral_toJson (s : SelectiveEntry) : s.toJson.Integral := by
  have hplan : (planToJson s.plan).Integral := integral_ofDict fun edges _ => by simp
  simp [toJson, hplan]

theorem EdgeEntry.integral_toJson {e : EdgeEntry} (h : ∀ v ∈ e.condition.stored, v.Integral) : e.toJson.Integral := by
  have hcondition := Guard.integral_toJson e.condition h
  have hforeach : (Json.ofOption Foreach.toJson e.foreach).Integral := integral_ofOption fun f _ => f.integral_toJson
  have hselective : (Json.ofOption SelectiveEntry.toJson e.selective).Integral :=
    integral_ofOption fun s _ => s.integral_toJson
  simp [toJson, hcondition, hforeach, hselective]

theorem integral_text (s : Option String) : (Json.ofOption .str s).Integral := integral_ofOption fun s _ => .str s

theorem integral_throttling (w : Option UInt64) : (Json.ofOption Json.ofWord64 w).Integral :=
  integral_ofOption fun w _ => Json.integral_ofWord64 w

theorem integral_cache (c : Option CacheSpec) : (Json.ofOption CacheSpec.toJson c).Integral :=
  integral_ofOption fun c _ => c.integral_toJson

theorem Sampling.integral_toJson {s : Sampling} (h : ∀ v ∈ s.args.values, v.Integral) : s.toJson.Integral := by
  have hargs : (Json.ofDict id s.args).Integral := integral_ofDict h
  simp [toJson, hargs]

theorem FlowTable.integral_toJson {f : FlowTable} (h : ∀ v ∈ f.stored, v.Integral) : f.toJson.Integral := by
  simp only [stored, List.mem_append, or_imp, forall_and] at h
  obtain ⟨⟨hconditions, hrules⟩, hargs⟩ := h
  have hedges : ∀ e ∈ f.edges, e.toJson.Integral := fun e he =>
    EdgeEntry.integral_toJson fun v hv => hconditions v (List.mem_flatMap.2 ⟨e, he, hv⟩)
  have hfailures := FailureGraph.integral_toJson hrules
  have hsampling := Sampling.integral_toJson hargs
  simpa [toJson, hfailures, hsampling, integral_throttling, integral_cache] using hedges

theorem TaskEntry.integral_toJson (t : TaskEntry) : t.toJson.Integral := by
  have hfunction : (Json.ofOption FunctionRef.toJson t.selectiveRunFunction).Integral :=
    integral_ofOption fun f _ => f.integral_toJson
  simp [toJson, integral_text, integral_throttling, hfunction]

theorem StorageEntry.integral_toJson {s : StorageEntry} (h : s.configuration.Integral) : s.toJson.Integral := by
  simp [toJson, integral_cache, h]

@[simp] theorem GlobalSettings.integral_toJson (s : GlobalSettings) : s.toJson.Integral := by
  simp [toJson, integral_text]

/-! ## Tables -/

namespace DispatchTable

variable {digest : String → String} {t u : DispatchTable}

theorem toJson_injective : Function.Injective toJson := by
  intro t u h
  cases t
  cases u
  simpa [toJson, ofDict_inj FlowTable.toJson_injective, ofDict_inj TaskEntry.toJson_injective,
    ofDict_inj StorageEntry.toJson_injective] using h

theorem integral_toJson (h : ∀ v ∈ t.stored, v.Integral) : t.toJson.Integral := by
  simp only [stored, List.mem_append, or_imp, forall_and] at h
  obtain ⟨hflowValues, hconfigurations⟩ := h
  have hflows : (Json.ofDict FlowTable.toJson t.flows).Integral := integral_ofDict fun f hf =>
    FlowTable.integral_toJson fun v hv => hflowValues v (List.mem_flatMap.2 ⟨f, hf, hv⟩)
  have htasks : (Json.ofDict TaskEntry.toJson t.tasks).Integral := integral_ofDict fun e _ => e.integral_toJson
  have hstorages : (Json.ofDict StorageEntry.toJson t.storages).Integral := integral_ofDict fun s hs =>
    StorageEntry.integral_toJson (hconfigurations _ (List.mem_map_of_mem hs))
  simp [toJson, hflows, htasks, hstorages]

/-- Tables with one digest agree in all but their fingerprints. -/
theorem eq_of_digestWith_eq (hdigest : Function.Injective digest) (hu : ∀ v ∈ u.stored, v.Integral)
    (hfingerprint : u.fingerprint = t.fingerprint) (h : u.digestWith digest = t.digestWith digest) : u = t := by
  have hblank : ({ u with fingerprint := "" } : DispatchTable) = { t with fingerprint := "" } :=
    toJson_injective (Json.compact_inj (integral_toJson hu) (hdigest h))
  cases t
  cases u
  simp_all

theorem verify_iff : t.verify digest = true ↔ t.digestWith digest = t.fingerprint := beq_iff_eq

/-- The digest only enters the fingerprint of a table. -/
theorem ofSystem_sign {s : System} (h : (DispatchTable.ofSystem digest s).result = .ok t) (d : String → String) :
    (DispatchTable.ofSystem d s).result = .ok (t.sign d) := by
  obtain ⟨flows, hflows, h⟩ := Logged.result_bind_eq_ok_iff.1 h
  obtain ⟨_, -, h⟩ := Logged.result_bind_eq_ok_iff.1 h
  cases h
  exact Logged.result_bind_eq_ok_iff.2 ⟨flows, hflows, rfl⟩

end DispatchTable

section Compile

variable {digest : String → String} {config : Configuration} {registry : Registry} {t : DispatchTable}

theorem compileWith_sign (h : (compileWith digest config registry).result = .ok t) (d : String → String) :
    (compileWith d config registry).result = .ok (t.sign d) := by
  obtain ⟨s, hs, htable⟩ := compileWith_eq_ok_iff.1 h
  exact compileWith_eq_ok_iff.2 ⟨s, hs, DispatchTable.ofSystem_sign htable d⟩

theorem sign_of_compileWith (h : (compileWith digest config registry).result = .ok t) : t.sign digest = t :=
  Except.ok.inj ((compileWith_sign h digest).symm.trans h)

/-- **Fingerprints are tamper-evident**, the digest taken for an injective function of texts: the fingerprint of a
compiled table is its own, and of all the tables that carry it, the compiled one is the only one that it belongs to.
The other table may differ anywhere, so long as the numbers in its JSON values are integers. No digest depends on the
fingerprint that a table carries. -/
theorem compileWith_seals_table (hdigest : Function.Injective digest)
    (htable : (compileWith digest config registry).result = .ok t) :
    t.verify digest = true ∧
      (∀ u : DispatchTable, (∀ v ∈ u.stored, v.Integral) → u.fingerprint = t.fingerprint →
        (u.verify digest = true ↔ u = t)) ∧
      ∀ (u : DispatchTable) (fingerprint : String),
        ({ u with fingerprint := fingerprint } : DispatchTable).digestWith digest = u.digestWith digest := by
  have hverify : t.verify digest = true := by
    rw [DispatchTable.verify_iff]
    exact congrArg DispatchTable.fingerprint (sign_of_compileWith htable)
  refine ⟨hverify, fun u hu hfingerprint => ⟨fun hother => ?_, ?_⟩, fun _ _ => rfl⟩
  · rw [DispatchTable.verify_iff] at hverify hother
    exact DispatchTable.eq_of_digestWith_eq hdigest hu hfingerprint
      (hother.trans (hfingerprint.trans hverify.symm))
  · rintro rfl
    exact hverify

end Compile

/-- The digest in use at a given text; the other texts are kept, behind the same digits, so that no two share one. -/
def digestAt (text s : String) : String := if s = text then digest text else digest text ++ "-" ++ s

theorem digestAt_injective (text : String) : Function.Injective (digestAt text) := by
  have hlonger : ∀ s : String, digest text ++ "-" ++ s ≠ digest text := by
    intro s h
    have hlength := congrArg String.length h
    have hdash : "-".length = 1 := rfl
    simp only [String.length_append, hdash] at hlength
    omega
  intro r s h
  unfold digestAt at h
  split at h <;> split at h
  · simp_all
  · exact absurd h.symm (hlonger s)
  · exact absurd h (hlonger r)
  · exact (String.append_right_inj _).1 h

theorem digestAt_self (text : String) : digestAt text text = digest text := if_pos rfl

/-- A table with a condition that holds numbers. Without its tasks it no longer has the digest that it carries. -/
theorem compileWith_seals_table_tasks :
    let docs : Documents := {
      nodes := {
        flows := ["f"]
        tasks := [{ name := "a", moduleName := "app", storage := some "s" }, { name := "b", moduleName := "app" }]
        storages := [{ name := "s", moduleName := "app" }] }
      flows := [⟨[{
        name := "f"
        edges := [{ sources := some [], targets := some ["a"] }, {
          sources := some ["a"]
          targets := some ["b"]
          condition := some (.table [
            ("name", .str "fieldEqual"),
            ("args", .table [("key", .str "id"), ("value", .int 5)])]) }] }]⟩] }
    let config : Configuration := ⟨docs.nodes, docs.definitions⟩
    docs.check.result = .ok config ∧ ∃ (hash : String → String) (t : DispatchTable), Function.Injective hash ∧
      (compileWith hash config .builtin).result = .ok t ∧ t.digestWith hash = t.digestWith digest ∧
      t.verify hash = true ∧ ({ t with tasks := .empty } : DispatchTable).verify hash = false := by
  intro docs config
  have hconfig : docs.check.result = .ok config := rfl
  have hcompiles : ((compileWith (fun _ => "") config .builtin).result.toOption.any fun t =>
      t.stored == [.str "id", .num (.int 5), .num (.int 120), .num (.int 2), .obj []] &&
        t.tasks.contains "a") = true := by decide
  obtain ⟨t, ht, h⟩ := Except.toOption_any_iff.1 hcompiles
  simp only [Bool.and_eq_true, beq_iff_eq] at h
  obtain ⟨hstored, ha⟩ := h
  obtain ⟨text, htext⟩ : ∃ text, text = ({ t with fingerprint := "" } : DispatchTable).toJson.compact := ⟨_, rfl⟩
  have hdigest : t.digestWith (digestAt text) = t.digestWith digest := by
    rw [DispatchTable.digestWith, DispatchTable.digestWith, ← htext, digestAt_self]
  have hinjective := digestAt_injective text
  have hsigned := compileWith_sign ht (digestAt text)
  obtain ⟨hverify, halone, -⟩ := compileWith_seals_table hinjective hsigned
  have hother := halone { t.sign (digestAt text) with tasks := .empty } ?_ rfl
  · refine ⟨hconfig, digestAt text, t.sign (digestAt text), hinjective, hsigned, hdigest, hverify, ?_⟩
    rw [Bool.eq_false_iff, ne_eq, hother]
    intro hsame
    have hempty : Dict.empty = t.tasks := congrArg DispatchTable.tasks hsame
    rw [← hempty] at ha
    cases ha
  · have hintegral : ∀ v ∈ t.stored, v.Integral := by
      rw [hstored]
      simp [Json.Integral.num]
    exact hintegral

end TaskFlow
