import TaskFlow.Condition.Evaluate
import TaskFlow.Proofs.Condition.Calls
import TaskFlow.Proofs.Registry.Predicates

/-!
# Evaluation does not get stuck

- `Guard.exists_call_of_evaluate_eq_error`: the error of a guard is that of one of its calls;
- `Call.exists_supplies`: a registered call that has its message is evaluated with all that its predicate takes;
- `Call.answers_of_signed_builtin`: a call of a built-in predicate that has its message answers, unless it compares a
  length with something that is no natural number.
-/

namespace TaskFlow

namespace Guard

variable {registry : Registry} {results : Results} {nodeArgs : Option Json} {e : EvalError}

mutual

/-- The error of a guard is that of one of its calls. -/
theorem exists_call_of_evaluate_eq_error : ∀ {g : Guard}, g.evaluate registry results nodeArgs = .error e →
    ∃ c ∈ g.calls, c.evaluate registry results nodeArgs = .error e
  | always, h => nomatch h
  | call c, h => ⟨c, List.mem_cons_self, h⟩
  | all _, h => exists_call_of_evaluateAll_eq_error h
  | any _, h => exists_call_of_evaluateAny_eq_error h
  | negate g, h => by
    rw [calls]
    exact exists_call_of_evaluate_eq_error (Except.map_eq_error_iff.1 h)

theorem exists_call_of_evaluateAll_eq_error : ∀ {gs : List Guard},
    evaluateAll registry results nodeArgs gs = .error e →
    ∃ c ∈ callsAll gs, c.evaluate registry results nodeArgs = .error e
  | [], h => nomatch h
  | g :: gs, h => by
    rcases Except.bind_eq_error_iff.1 h with hg | ⟨b, -, h⟩
    · obtain ⟨c, hc, herror⟩ := exists_call_of_evaluate_eq_error hg
      exact ⟨c, List.mem_append_left _ hc, herror⟩
    · cases b with
      | false => cases h
      | true =>
        obtain ⟨c, hc, herror⟩ := exists_call_of_evaluateAll_eq_error h
        exact ⟨c, List.mem_append_right _ hc, herror⟩

theorem exists_call_of_evaluateAny_eq_error : ∀ {gs : List Guard},
    evaluateAny registry results nodeArgs gs = .error e →
    ∃ c ∈ callsAll gs, c.evaluate registry results nodeArgs = .error e
  | [], h => nomatch h
  | g :: gs, h => by
    rcases Except.bind_eq_error_iff.1 h with hg | ⟨b, -, h⟩
    · obtain ⟨c, hc, herror⟩ := exists_call_of_evaluate_eq_error hg
      exact ⟨c, List.mem_append_left _ hc, herror⟩
    · cases b with
      | true => cases h
      | false =>
        obtain ⟨c, hc, herror⟩ := exists_call_of_evaluateAny_eq_error h
        exact ⟨c, List.mem_append_right _ hc, herror⟩

end

end Guard

namespace Call

variable {registry : Registry} {results : Results} {c : Call} {p : PredicateSignature}

/-- A call has its message: where it takes one, it is bound to a node with a stored result. -/
def HasMessage (results : Results) (c : Call) : Prop :=
  c.requiresMessage = true → ∃ node, c.node = some node ∧ (results node).isSome

/-- A call that has its message is evaluated with all that its predicate takes. -/
theorem exists_supplies (h : c.Signed registry p) (hmessage : c.HasMessage results) (nodeArgs : Option Json) :
    ∃ message, c.messageFrom results = .ok message ∧
      PredicateCall.Supplies ⟨message, nodeArgs, c.args⟩ p.params := by
  have harg : ∀ name ∈ p.params, name ≠ messageParam → name ≠ nodeArgsParam → (c.args.get? name).isSome := by
    intro name hname hne hne'
    refine (h.contains_args_iff name).2 (List.mem_filter.2 ⟨hname, ?_⟩)
    rw [Bool.and_eq_true, bne_iff_ne, bne_iff_ne]
    exact ⟨hne, hne'⟩
  unfold messageFrom
  cases hrequires : c.requiresMessage with
  | false =>
    refine ⟨none, rfl, fun hmem => ?_, harg⟩
    have hparam : p.requiresMessage = true := List.contains_iff_mem.2 hmem
    rw [← h.requiresMessage_eq, hrequires] at hparam
    cases hparam
  | true =>
    obtain ⟨node, hnode, hresult⟩ := hmessage hrequires
    obtain ⟨m, hm⟩ := Option.isSome_iff_exists.1 hresult
    refine ⟨some m, ?_, fun _ => rfl, harg⟩
    rw [hnode]
    simp only [hm]

/-- A call of a built-in predicate that compares a length with an argument. -/
def ComparesLength (c : Call) : Prop :=
  c.function.moduleName = Predicates.moduleName ∧ c.function.name ∈ Predicates.comparingLength

/-- A call of a built-in predicate that has its message answers, unless it compares a length with something that is no
natural number. -/
theorem answers_of_signed_builtin (h : c.Signed .builtin p) (hmessage : c.HasMessage results)
    (nodeArgs : Option Json) :
    (∃ b, c.evaluate .builtin results nodeArgs = .ok b) ∨
      c.evaluate .builtin results nodeArgs = .error .lengthNotNatural ∧ c.ComparesLength ∧
        ∃ length, c.args.get? "length" = some length ∧ ∀ n : Nat, length ≠ .ofNat n := by
  obtain ⟨message, hmessage, hsupplies⟩ := exists_supplies h hmessage nodeArgs
  obtain ⟨name, params, eval, hmem, hfunction, rfl⟩ := Registry.exists_mem_of_predicate?_builtin h.registered
  have hevaluate : c.evaluate .builtin results nodeArgs = eval ⟨message, nodeArgs, c.args⟩ := by
    unfold evaluate
    rw [h.registered]
    show (c.messageFrom results >>= _) = _
    rw [hmessage]
    rfl
  have hanswers : Predicates.Answers name params eval := Predicates.builtinPredicates_answer _ hmem
  rw [hevaluate]
  rcases hanswers _ hsupplies with hok | ⟨herror, hname, hlength⟩
  · exact Or.inl hok
  · refine Or.inr ⟨herror, ?_, hlength⟩
    rw [ComparesLength, hfunction]
    exact ⟨rfl, hname⟩

end Call

end TaskFlow
