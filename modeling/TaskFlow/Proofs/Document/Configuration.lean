import Mathlib.Data.List.Nodup
import TaskFlow.Document.Configuration
import TaskFlow.Proofs.Data.NameSet
import TaskFlow.Proofs.Log.Logged

/-!
# What the structural checks promise

- `checkNames_eq_ok_iff`: names pass just if all are valid and none occurs twice;
- `Documents.configuration_eq_ok_iff`: documents are a configuration just if each declared flow has one definition;
- `Configuration.Accepted`: the promise to everything behind the checks: names are distinct across tasks, flows and
  storages, and the definitions are those of the declared flows in their order;
- `accepted_of_check`: documents that pass the checks keep it.
-/

namespace TaskFlow

/-- Names pass just if all are valid and none occurs twice, be it among those seen. -/
theorem checkNames_eq_ok_iff {seen names : List (String × NameKind)} :
    checkNames seen names = .ok () ↔
      (∀ n ∈ names, isValidName n.1 = true) ∧ (names.map Prod.fst).Nodup ∧ ∀ n ∈ names, seen.lookup n.1 = none := by
  induction names generalizing seen with
  | nil => simp [checkNames]
  | cons n names ih =>
    obtain ⟨name, kind⟩ := n
    rw [checkNames, List.map_cons, List.nodup_cons, List.forall_mem_cons, List.forall_mem_cons]
    cases hvalid : isValidName name with
    | false => simp
    | true =>
      cases hseen : seen.lookup name with
      | some first => simp
      | none =>
        rw [show (!true) = false from rfl, if_neg Bool.false_ne_true]
        simp only [ih, Fields.lookup_cons, true_and, List.mem_map, not_exists, not_and]
        constructor
        · rintro ⟨hrest, hnodup, hnew⟩
          refine ⟨hrest, ⟨fun m hm heq => ?_, hnodup⟩, fun m hm => ?_⟩
          · have := hnew m hm
            rw [if_pos heq] at this
            cases this
          · have := hnew m hm
            split at this
            · cases this
            · exact this
        · rintro ⟨hrest, ⟨hdistinct, hnodup⟩, hnew⟩
          refine ⟨hrest, hnodup, fun m hm => ?_⟩
          rw [if_neg (hdistinct m hm)]
          exact hnew m hm

theorem NodesDocument.check_eq_ok_iff {doc : NodesDocument} :
    doc.check = .ok () ↔
      (∀ n ∈ doc.declaredNames, isValidName n.1 = true) ∧ (doc.declaredNames.map Prod.fst).Nodup ∧ doc.flows ≠ [] := by
  have hflows : (if doc.flows.isEmpty then Except.error DeclarationError.noFlows else .ok ()) = .ok () ↔
      doc.flows ≠ [] := by
    cases doc.flows <;> simp
  constructor
  · intro h
    obtain ⟨_, hnames, h⟩ := Except.bind_eq_ok_iff.1 h
    obtain ⟨hvalid, hnodup, -⟩ := checkNames_eq_ok_iff.1 hnames
    exact ⟨hvalid, hnodup, hflows.1 h⟩
  · rintro ⟨hvalid, hnodup, hne⟩
    refine Except.bind_eq_ok_iff.2 ⟨(), checkNames_eq_ok_iff.2 ⟨hvalid, hnodup, fun _ _ => rfl⟩, ?_⟩
    exact hflows.2 hne

/-- The names of tasks, flows and storages taken together. -/
def NodesDocument.names (doc : NodesDocument) : List String :=
  doc.tasks.map (·.name) ++ doc.flows ++ doc.storages.map (·.name)

theorem NodesDocument.map_fst_declaredNames (doc : NodesDocument) : doc.declaredNames.map Prod.fst = doc.names := by
  simp only [declaredNames, names, List.map_append, List.map_map]
  rw [show (Prod.fst ∘ fun f : String => (f, NameKind.flow)) = id from rfl, List.map_id]
  rfl

/-- Definitions pass just if no two have one name and all names are declared. -/
theorem checkDefinitions_eq_ok_iff {declared seen : List String} {ds : List FlowDefinition} :
    checkDefinitions declared seen ds = .ok () ↔
      ((ds.map (·.name)).Nodup ∧ ∀ name ∈ ds.map (·.name), name ∉ seen) ∧ ∀ d ∈ ds, d.name ∈ declared := by
  induction ds generalizing seen with
  | nil => simp [checkDefinitions]
  | cons d ds ih =>
    have hdeclared : ¬(!declared.contains d.name) = true ↔ d.name ∈ declared := by simp
    rw [checkDefinitions, Except.ite_error_eq_ok_iff, Except.ite_error_eq_ok_iff, ih, List.map_cons,
      nodup_cons_unseen_iff, List.forall_mem_cons, List.contains_iff_mem, hdeclared]
    exact and_assoc.symm.trans and_and_and_comm

/-- The definitions collected are those of the names, one for each. -/
theorem collectDefinitions_eq_ok_iff {definitions ds : List FlowDefinition} {names : List String} :
    collectDefinitions definitions names = .ok ds ↔
      List.Forall₂ (fun name d => definitions.find? (fun d => d.name == name) = some d) names ds := by
  induction names generalizing ds with
  | nil =>
    rw [collectDefinitions, List.forall₂_nil_left_iff]
    exact ⟨fun h => by cases h; rfl, fun h => by rw [h]⟩
  | cons name names ih =>
    rw [collectDefinitions, List.forall₂_cons_left_iff]
    cases hfind : definitions.find? fun d => d.name == name with
    | none => exact ⟨nofun, fun ⟨_, _, h, _⟩ => nomatch h⟩
    | some d =>
      show (collectDefinitions definitions names).map (d :: ·) = .ok ds ↔ _
      rw [Except.map_eq_ok_iff]
      constructor
      · rintro ⟨ds', hds', rfl⟩
        exact ⟨d, ds', rfl, ih.1 hds', rfl⟩
      · rintro ⟨_, ds', h, hds', rfl⟩
        cases h
        exact ⟨ds', ih.2 hds', rfl⟩

/-- What configurations promise that passed the structural checks. -/
structure Configuration.Accepted (config : Configuration) : Prop where
  nodup_names : (config.nodes.declaredNames.map Prod.fst).Nodup
  names_definitions : config.definitions.map (·.name) = config.nodes.flows

namespace Configuration.Accepted

variable {config : Configuration}

theorem nodup_append (h : config.Accepted) :
    (config.nodes.tasks.map (·.name) ++ config.nodes.flows ++ config.nodes.storages.map (·.name)).Nodup := by
  have hnames := h.nodup_names
  rwa [NodesDocument.map_fst_declaredNames] at hnames

theorem nodup_tasks (h : config.Accepted) : (config.nodes.tasks.map (·.name)).Nodup :=
  (List.nodup_append.1 (List.nodup_append.1 h.nodup_append).1).1

theorem nodup_flows (h : config.Accepted) : config.nodes.flows.Nodup :=
  (List.nodup_append.1 (List.nodup_append.1 h.nodup_append).1).2.1

theorem nodup_storages (h : config.Accepted) : (config.nodes.storages.map (·.name)).Nodup :=
  (List.nodup_append.1 h.nodup_append).2.1

theorem nodup_definitions (h : config.Accepted) : (config.definitions.map (·.name)).Nodup :=
  h.names_definitions ▸ h.nodup_flows

end Configuration.Accepted

namespace Documents

variable {docs : Documents} {config : Configuration}

/-- Documents are a configuration just if their names are in order and each declared flow has the only definition of
its name. -/
theorem configuration_eq_ok_iff :
    docs.configuration = .ok config ↔
      docs.nodes.check = .ok () ∧ (docs.definitions.map (·.name)).Nodup ∧
      (∀ d ∈ docs.definitions, d.name ∈ docs.nodes.flows) ∧ config.nodes = docs.nodes ∧
      List.Forall₂ (fun name d => d ∈ docs.definitions ∧ d.name = name) docs.nodes.flows config.definitions := by
  have hfind : (docs.definitions.map (·.name)).Nodup → ∀ name d,
      docs.definitions.find? (fun d => d.name == name) = some d ↔ d ∈ docs.definitions ∧ d.name = name := by
    intro hnodup name d
    constructor
    · intro h
      exact ⟨List.mem_of_find?_eq_some h, by simpa using List.find?_some h⟩
    · rintro ⟨hmem, rfl⟩
      cases hfound : docs.definitions.find? fun d' => d'.name == d.name with
      | none => simpa using List.find?_eq_none.1 hfound d hmem
      | some d' =>
        have hname : d'.name = d.name := by simpa using List.find?_some hfound
        rw [List.inj_on_of_nodup_map hnodup (List.mem_of_find?_eq_some hfound) hmem hname]
  constructor
  · intro h
    obtain ⟨_, hcheck, h⟩ := Except.bind_eq_ok_iff.1 h
    obtain ⟨_, hdefinitions, h⟩ := Except.bind_eq_ok_iff.1 h
    obtain ⟨definitions, hcollect, h⟩ := Except.bind_eq_ok_iff.1 h
    cases h
    obtain ⟨⟨hnodup, -⟩, hdeclared⟩ := checkDefinitions_eq_ok_iff.1 hdefinitions
    exact ⟨hcheck, hnodup, hdeclared, rfl,
      (collectDefinitions_eq_ok_iff.1 hcollect).imp fun name d h => (hfind hnodup name d).1 h⟩
  · rintro ⟨hcheck, hnodup, hdeclared, hnodes, hdefinitions⟩
    obtain ⟨nodes, definitions⟩ := config
    cases hnodes
    refine Except.bind_eq_ok_iff.2 ⟨(), hcheck, Except.bind_eq_ok_iff.2 ⟨(), ?_, ?_⟩⟩
    · exact checkDefinitions_eq_ok_iff.2 ⟨⟨hnodup, fun _ _ => List.not_mem_nil⟩, hdeclared⟩
    · refine Except.bind_eq_ok_iff.2 ⟨definitions, collectDefinitions_eq_ok_iff.2 ?_, rfl⟩
      exact hdefinitions.imp fun name d h => (hfind hnodup name d).2 h

/-- The structural checks accept what is a configuration. -/
theorem check_eq_ok_iff : docs.check.result = .ok config ↔ docs.configuration = .ok config := by
  constructor
  · intro h
    obtain ⟨_, hconfig, h⟩ := Logged.result_bind_eq_ok_iff.1 h
    obtain ⟨_, -, h⟩ := Logged.result_bind_eq_ok_iff.1 h
    cases h
    exact hconfig
  · intro h
    exact Logged.result_bind_eq_ok_iff.2 ⟨config, h, Logged.result_bind_eq_ok_iff.2 ⟨(), rfl, rfl⟩⟩

theorem accepted_of_check (h : docs.check.result = .ok config) : config.Accepted := by
  obtain ⟨hcheck, -, -, hnodes, hdefinitions⟩ := configuration_eq_ok_iff.1 (check_eq_ok_iff.1 h)
  obtain ⟨-, hnames, -⟩ := NodesDocument.check_eq_ok_iff.1 hcheck
  refine ⟨hnodes ▸ hnames, ?_⟩
  have heq : docs.nodes.flows.map id = config.definitions.map (·.name) :=
    map_eq_map_of_forall₂ (hdefinitions.imp fun _ _ h => h.2.symm)
  rw [← heq, List.map_id, hnodes]

end Documents

end TaskFlow
