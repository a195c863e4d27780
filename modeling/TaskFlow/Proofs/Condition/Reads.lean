import TaskFlow.Proofs.Condition.Results

/-!
# What an evaluation reads

- `Call.evaluate_of_agree`: a call looks at the result of its own node only;
- `Call.evaluate_of_requiresNodeArgs`: a call of a built-in predicate looks at the arguments of the flow only where it
  says so, since its flag is that of the predicate (`Call.exists_signature_of_ofFields`);
- `Condition.evaluate_reads_declared`: an evaluation depends on nothing but the results of the inspected nodes and,
  where the condition requires them, the arguments of the flow.
-/

namespace TaskFlow

namespace Call

variable {registry : Registry} {s : Scope} {sources : List String} {c : Call}

/-- A call looks at the result of its own node only. -/
theorem evaluate_of_agree {results results' : Results} (h : ∀ node, c.node = some node → results node = results' node)
    (nodeArgs : Option Json) :
    c.evaluate registry results nodeArgs = c.evaluate registry results' nodeArgs := by
  have hmessage : c.messageFrom results = c.messageFrom results' := by
    unfold messageFrom
    cases c.requiresMessage with
    | false => rfl
    | true =>
      cases hnode : c.node with
      | none => rfl
      | some node => simp only [h node hnode]
  simp only [evaluate, hmessage]

/-- A call that is read carries the flags of the predicate that is registered for it. -/
theorem exists_signature_of_ofFields {fields : List (String × Toml)} (h : ofFields s sources fields = .ok c) :
    ∃ p, s.registry.predicate? c.function = some p ∧ c.requiresNodeArgs = p.requiresNodeArgs := by
  obtain ⟨p, hdeclared⟩ := ofFields_eq_ok_iff_declared.1 h
  exact ⟨p, hdeclared.registered, hdeclared.requiresNodeArgs_eq⟩

/-- A call of a built-in predicate that takes no arguments of the flow does not look at them. -/
theorem evaluate_of_requiresNodeArgs {p : PredicateSignature} (hp : Registry.builtin.predicate? c.function = some p)
    (h : p.requiresNodeArgs = false) (results : Results) (nodeArgs nodeArgs' : Option Json) :
    c.evaluate .builtin results nodeArgs = c.evaluate .builtin results nodeArgs' := by
  obtain ⟨name, params, eval, hmem, -, rfl⟩ := Registry.exists_mem_of_predicate?_builtin hp
  have hparams : nodeArgsParam ∉ params := by
    intro hparam
    have htrue : PredicateSignature.requiresNodeArgs ⟨params, some eval⟩ = true := List.contains_iff_mem.2 hparam
    rw [h] at htrue
    cases htrue
  have heval := Predicates.builtinPredicates_ignore_nodeArgs _ hmem hparams
  simp only [evaluate, hp]
  cases c.messageFrom results with
  | error e => rfl
  | ok message => exact heval message nodeArgs nodeArgs' c.args

end Call

namespace Condition

variable {c : Condition}

theorem mem_inspected_iff {node : String} : node ∈ c.inspected ↔ ∃ call ∈ c.calls, call.node = some node := by
  rw [inspected, List.mem_eraseDups, List.mem_filterMap]

theorem requiresMessage_eq_false_iff : c.requiresMessage = false ↔ ∀ call ∈ c.calls, call.requiresMessage = false := by
  simp only [requiresMessage, List.any_eq_false, Bool.not_eq_true]

theorem requiresNodeArgs_eq_false_iff :
    c.requiresNodeArgs = false ↔ ∀ call ∈ c.calls, call.requiresNodeArgs = false := by
  simp only [requiresNodeArgs, List.any_eq_false, Bool.not_eq_true]

/-- **An evaluation reads only what the condition declares**: it has the same outcome, be it a value or an error,
under two maps of results that agree on the inspected nodes, and under any two if the condition requires no message;
with the built-in predicates it has the same outcome for any two arguments of the flow if the condition requires
none. -/
theorem evaluate_reads_declared {s : Scope} {sources : List String} {decl : Option Toml} {c : Condition}
    (h : ofDecl s sources decl = .ok c) :
    (∀ (registry : Registry) (nodeArgs : Option Json) (results results' : Results),
      (∀ node ∈ c.inspected, results node = results' node) →
      c.guard.evaluate registry results nodeArgs = c.guard.evaluate registry results' nodeArgs) ∧
    (c.requiresMessage = false → ∀ (registry : Registry) (nodeArgs : Option Json) (results results' : Results),
      c.guard.evaluate registry results nodeArgs = c.guard.evaluate registry results' nodeArgs) ∧
    (s.registry = .builtin → c.requiresNodeArgs = false → ∀ (results : Results) (nodeArgs nodeArgs' : Option Json),
      c.guard.evaluate .builtin results nodeArgs = c.guard.evaluate .builtin results nodeArgs') := by
  refine ⟨fun registry nodeArgs results results' hagree => ?_, fun hmessage registry nodeArgs results results' => ?_,
    fun hbuiltin hnodeArgs results nodeArgs nodeArgs' => ?_⟩
  · refine Guard.evaluate_congr fun call hcall => Call.evaluate_of_agree (fun node hnode => ?_) nodeArgs
    rw [calls_guard] at hcall
    exact hagree node (mem_inspected_iff.2 ⟨call, hcall, hnode⟩)
  · refine Guard.evaluate_eq_of_requiresMessage (fun call hcall => ?_) results results'
    rw [calls_guard] at hcall
    exact requiresMessage_eq_false_iff.1 hmessage call hcall
  · refine Guard.evaluate_congr fun call hcall => ?_
    rw [calls_guard] at hcall
    obtain ⟨fields, hread⟩ := exists_fields_of_ofDecl h call hcall
    obtain ⟨p, hp, hflag⟩ := Call.exists_signature_of_ofFields hread
    rw [hbuiltin] at hp
    have hp_flag : p.requiresNodeArgs = false := hflag ▸ requiresNodeArgs_eq_false_iff.1 hnodeArgs call hcall
    exact Call.evaluate_of_requiresNodeArgs hp hp_flag results nodeArgs nodeArgs'

/-- Two fields of the only source: neither the results of other nodes nor the arguments of the flow matter. -/
theorem evaluate_reads_declared_group :
    let s : Scope := { settings := {}, registry := .builtin, tasks := .empty, flowNames := .empty }
    let field (key : String) : Toml := .table [("name", .str "fieldExist"), ("args", .table [("key", .str key)])]
    let t : Toml := .table [("or", .arr [field "x", .table [("not", field "y")]])]
    ∃ c, ofDecl s ["A"] (some t) = .ok c ∧ c.inspected = ["A"] ∧ c.requiresNodeArgs = false ∧
      ∀ (results results' : Results) (nodeArgs nodeArgs' : Option Json), results "A" = results' "A" →
        c.guard.evaluate .builtin results nodeArgs = c.guard.evaluate .builtin results' nodeArgs' := by
  intro s field t
  obtain ⟨c, hread, hinspected, hnodeArgs⟩ :
      ∃ c, ofDecl s ["A"] (some t) = .ok c ∧ c.inspected = ["A"] ∧ c.requiresNodeArgs = false :=
    ⟨_, rfl, by decide, by decide⟩
  obtain ⟨hresults, -, hargs⟩ := evaluate_reads_declared hread
  refine ⟨c, hread, hinspected, hnodeArgs, fun results results' nodeArgs nodeArgs' hagree => ?_⟩
  have hnodes : ∀ node ∈ c.inspected, results node = results' node := by
    rw [hinspected]
    exact List.forall_mem_singleton.2 hagree
  rw [hresults .builtin nodeArgs results results' hnodes, hargs rfl hnodeArgs results' nodeArgs nodeArgs']

end Condition

end TaskFlow
