import TaskFlow.Condition.Check
import TaskFlow.Proofs.Condition.Grammar

/-!
# The calls of a condition

- `calls_guard`: a guard has the calls of its condition;
- `Call.check_eq_ok_iff`, `Condition.check_eq_ok_iff`: a condition is in its place just if each call that takes a
  message is bound to a source whose results can be read back;
- `exists_fields_of_ofDecl`: every call of a condition that is read is read from the fields of a table;
- `Call.Signed`: a call that is registered and has the arguments of its predicate; `signed_of_ofDecl`: so is every call
  of a condition that is read.
-/

namespace TaskFlow

/-! ## Calls kept in guards -/

namespace Condition

mutual

@[simp] theorem calls_guard : ∀ c : Condition, c.guard.calls = c.calls
  | always => rfl
  | call _ => rfl
  | all cs => callsAll_guards cs
  | any cs => callsAll_guards cs
  | negate c => calls_guard c

theorem callsAll_guards : ∀ cs : List Condition, Guard.callsAll (guards cs) = callsAll cs
  | [] => rfl
  | c :: cs => by rw [guards, Guard.callsAll, callsAll, calls_guard c, callsAll_guards cs]

end

end Condition

/-! ## Calls in their place -/

section Check

variable {s : Scope} {sources : List String} {canInspect : Bool}

/-- A task whose results can be read back has a storage that it may write. -/
theorem Task.checkResults_eq_ok_iff {f : FunctionRef} {t : Task} {node : String} :
    t.checkResults f node = .ok () ↔ (∃ storage, t.storage = some storage) ∧ t.storageReadonly = false := by
  unfold Task.checkResults
  cases t.storage with
  | none => exact iff_of_false nofun fun h => nomatch h.1
  | some storage =>
    cases t.storageReadonly with
    | true => exact iff_of_false nofun fun h => nomatch h.2
    | false => exact iff_of_true rfl ⟨⟨storage, rfl⟩, rfl⟩

theorem Scope.checkResults_eq_ok_iff {f : FunctionRef} {node : String} :
    s.checkResults f node = .ok () ↔ ∃ t storage, s.tasks.get? node = some t ∧ t.storage = some storage ∧
      t.storageReadonly = false := by
  unfold Scope.checkResults
  cases s.tasks.get? node with
  | none => exact iff_of_false nofun fun ⟨_, _, h, _⟩ => nomatch h
  | some t =>
    simp only [Task.checkResults_eq_ok_iff]
    constructor
    · rintro ⟨⟨storage, hstorage⟩, hwritable⟩
      exact ⟨t, storage, rfl, hstorage, hwritable⟩
    · rintro ⟨_, storage, h, hstorage, hwritable⟩
      cases h
      exact ⟨⟨storage, hstorage⟩, hwritable⟩

/-- A bound call passes where results may be inspected and its node is a source that has some. -/
theorem Call.check_of_node {c : Call} {node : String} (hmessage : c.requiresMessage = true)
    (hnode : c.node = some node) :
    c.check s sources canInspect = .ok () ↔
      canInspect = true ∧ node ∈ sources ∧ s.checkResults c.function node = .ok () := by
  simp only [Call.check, hmessage, hnode, Bool.not_true, Bool.false_eq_true, if_false]
  split
  · rename_i hinspect
    exact iff_of_false nofun fun hok => by simp [hok.1] at hinspect
  · rename_i hinspect
    rw [Bool.not_eq_true', Bool.not_eq_false] at hinspect
    split
    · rename_i hsource
      exact iff_of_false nofun fun hok => by simp [hok.2.1] at hsource
    · rename_i hsource
      rw [Bool.not_eq_true', Bool.not_eq_false, List.contains_iff_mem] at hsource
      exact ⟨fun hok => ⟨hinspect, hsource, hok⟩, fun hok => hok.2.2⟩

/-- A call that takes a message is bound to a task among the sources, which stores its results and may be inspected. -/
theorem Call.check_eq_ok_iff {c : Call} :
    c.check s sources canInspect = .ok () ↔ (c.requiresMessage = true → canInspect = true ∧ ∃ node t storage,
      c.node = some node ∧ node ∈ sources ∧ s.tasks.get? node = some t ∧ t.storage = some storage ∧
      t.storageReadonly = false) := by
  cases hmessage : c.requiresMessage with
  | false =>
    refine iff_of_true ?_ nofun
    rw [Call.check, hmessage]
    rfl
  | true =>
    rw [imp_iff_right rfl]
    cases hnode : c.node with
    | none =>
      refine iff_of_false (fun h => ?_) fun ⟨_, _, _, _, h, _⟩ => nomatch h
      rw [Call.check, hmessage, hnode] at h
      cases h
    | some node =>
      rw [Call.check_of_node hmessage hnode, Scope.checkResults_eq_ok_iff]
      constructor
      · rintro ⟨hinspect, hsource, t, storage, hresults⟩
        exact ⟨hinspect, node, t, storage, rfl, hsource, hresults⟩
      · rintro ⟨hinspect, _, t, storage, h, hsource, hresults⟩
        cases h
        exact ⟨hinspect, hsource, t, storage, hresults⟩

theorem Condition.check_eq_ok_iff {c : Condition} :
    c.check s sources canInspect = .ok () ↔ ∀ call ∈ c.calls, call.check s sources canInspect = .ok () :=
  Except.forM_eq_ok_iff

/-- Where there is nothing to inspect, no call takes a message. -/
theorem Condition.requiresMessage_of_check {c : Condition} (h : c.check s sources false = .ok ()) :
    ∀ call ∈ c.calls, call.requiresMessage = false := by
  intro call hcall
  rw [Bool.eq_false_iff]
  intro hmessage
  exact nomatch (Call.check_eq_ok_iff.1 (check_eq_ok_iff.1 h call hcall) hmessage).1

end Check

/-! ## Calls as they are registered -/

/-- A call of a registered predicate, with the arguments that the predicate takes. -/
structure Call.Signed (registry : Registry) (c : Call) (p : PredicateSignature) : Prop where
  registered : registry.predicate? c.function = some p
  requiresMessage_eq : c.requiresMessage = p.requiresMessage
  contains_args_iff : ∀ name, c.args.contains name = true ↔ name ∈ p.explicitParams

/-- The arguments of a call are those that its predicate takes. -/
theorem ArgsGiven.contains_iff {p : PredicateSignature} {given : Option Toml} {args : Dict Json}
    (h : ArgsGiven (fun p => p.explicitParams = []) p given args) (name : String) :
    args.contains name = true ↔ name ∈ p.explicitParams := by
  cases h with
  | omitted hnone =>
    rw [hnone]
    exact iff_of_false nofun nofun
  | given hparams => rw [← Dict.mem_keys_iff_contains, Dict.mem_keys_ofList, Toml.map_fst_toJsonFields, hparams]

theorem Call.signed_of_ofFields {s : Scope} {sources : List String} {fields : List (String × Toml)} {c : Call}
    (h : ofFields s sources fields = .ok c) : ∃ p, c.Signed s.registry p := by
  obtain ⟨p, hdeclared⟩ := ofFields_eq_ok_iff_declared.1 h
  exact ⟨p, hdeclared.registered, hdeclared.requiresMessage_eq, hdeclared.args_given.contains_iff⟩

namespace Condition

variable {s : Scope} {sources : List String}

mutual

/-- Every call of a condition that a table declares is read from the fields of some table. -/
theorem exists_fields_of_ofTable : ∀ {t : Toml} {c : Condition}, ofTable s sources t = .ok c →
    ∀ call ∈ c.calls, ∃ fields, Call.ofFields s sources fields = .ok call := by
  intro t c h
  obtain ⟨fields, call, rfl, -, hcall, rfl⟩ | ⟨inner, c', rfl, -, hc', rfl⟩ | ⟨items, cs, rfl, -, hcs, rfl⟩ |
    ⟨items, cs, rfl, -, hcs, rfl⟩ := ofTable_cases h
  · intro call' hmem
    rw [List.mem_singleton.1 hmem]
    exact ⟨fields, hcall⟩
  · rw [calls]
    exact exists_fields_of_ofTable hc'
  · rw [calls]
    exact exists_fields_of_ofItems hcs
  · rw [calls]
    exact exists_fields_of_ofItems hcs
termination_by t => sizeOf t

theorem exists_fields_of_ofItems : ∀ {ts : List Toml} {cs : List Condition}, ofItems s sources ts = .ok cs →
    ∀ call ∈ callsAll cs, ∃ fields, Call.ofFields s sources fields = .ok call
  | [], _, h => by
    cases h
    exact fun _ hmem => nomatch hmem
  | t :: ts, _, h => by
    obtain ⟨c, hc, h⟩ := Except.bind_eq_ok_iff.1 h
    obtain ⟨cs, hcs, h⟩ := Except.bind_eq_ok_iff.1 h
    cases h
    intro call hmem
    rcases List.mem_append.1 hmem with hmem | hmem
    · exact exists_fields_of_ofTable hc call hmem
    · exact exists_fields_of_ofItems hcs call hmem
termination_by ts => sizeOf ts

end

theorem exists_fields_of_ofDecl {decl : Option Toml} {c : Condition} (h : ofDecl s sources decl = .ok c) :
    ∀ call ∈ c.calls, ∃ fields, Call.ofFields s sources fields = .ok call := by
  cases decl with
  | none =>
    cases h
    exact fun _ hmem => nomatch hmem
  | some t => exact exists_fields_of_ofTable h

/-- Every call of a condition that is read is registered. -/
theorem signed_of_ofDecl {decl : Option Toml} {c : Condition} (h : ofDecl s sources decl = .ok c) :
    ∀ call ∈ c.calls, ∃ p, call.Signed s.registry p := by
  intro call hcall
  obtain ⟨fields, hread⟩ := exists_fields_of_ofDecl h call hcall
  exact Call.signed_of_ofFields hread

end Condition

end TaskFlow
