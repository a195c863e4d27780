import Mathlib.Data.List.Nodup
import TaskFlow.Failure.Rule
import TaskFlow.Proofs.Data.NameSet
import TaskFlow.Proofs.Log.Logged

/-!
# Failure rules that are read

- `checkNodes_eq_ok_iff`: the nodes of a rule are distinct and known;
- `fallbackOf_eq_ok`, `checkFallback_eq_ok`: its fallback starts known nodes, or stops the flow and propagates nothing;
- `ofDecl_eq_ok_iff`: a rule as read, with everything that was checked.
-/

namespace TaskFlow.FailureRule

variable {s : Scope}

/-- Nodes pass just if each is known and none occurs twice, be it among those seen. -/
theorem checkNodes_eq_ok_iff {seen nodes : List String} :
    checkNodes s seen nodes = .ok () ↔
      (nodes.Nodup ∧ ∀ node ∈ nodes, node ∉ seen) ∧ ∀ node ∈ nodes, (s.kind? node).isSome := by
  induction nodes generalizing seen with
  | nil => simp [checkNodes]
  | cons node nodes ih =>
    have hkind : ¬(s.kind? node).isNone = true ↔ (s.kind? node).isSome = true := by
      cases s.kind? node <;> simp
    rw [checkNodes, Except.ite_error_eq_ok_iff, Except.ite_error_eq_ok_iff, ih, nodup_cons_unseen_iff,
      List.forall_mem_cons, List.contains_iff_mem, hkind]
    exact and_assoc.symm.trans and_and_and_comm

/-- A fallback stops the flow or starts known nodes, one at least. -/
theorem fallbackOf_eq_ok {nodes : List String} {decl : FallbackDecl} {fallback : Fallback}
    (h : fallbackOf s nodes decl = .ok fallback) :
    (∀ x ∈ fallback.started, (s.kind? x).isSome) ∧ ∀ names, fallback = .nodes names → names ≠ [] := by
  unfold fallbackOf at h
  split at h
  · cases h
    exact ⟨nofun, nofun⟩
  · cases h
  · cases h
  · rename_i names hne
    split at h
    · cases h
    · rename_i hfind
      cases h
      refine ⟨fun x hx => ?_, fun _ heq => ?_⟩
      · have hknown := List.find?_eq_none.1 hfind x hx
        rw [Option.isNone_iff_eq_none] at hknown
        exact Option.isSome_iff_ne_none.2 hknown
      · cases heq
        exact hne

/-- A flow that stops propagates nothing. -/
theorem checkFallback_eq_ok {nodes : List String} {propagateFailure : Bool}
    (h : checkFallback nodes .stopFlow propagateFailure = .ok ()) : propagateFailure = false := by
  cases propagateFailure with
  | false => rfl
  | true => cases h

/-- A rule that is read has the nodes and the condition of its declaration, and passed the checks on them. -/
theorem ofDecl_eq_ok_iff {decl : FailureDecl} {r : FailureRule} :
    ofDecl s decl = .ok r ↔
      r.nodes = decl.nodes ∧ r.propagateFailure = decl.propagateFailure ∧ decl.nodes ≠ [] ∧
      checkNodes s [] decl.nodes = .ok () ∧ fallbackOf s decl.nodes decl.fallback = .ok r.fallback ∧
      checkFallback decl.nodes r.fallback decl.propagateFailure = .ok () ∧
      Condition.ofDecl s decl.nodes decl.condition = .ok r.condition ∧
      r.condition.check s decl.nodes false = .ok () := by
  unfold ofDecl
  cases hempty : decl.nodes.isEmpty with
  | true => exact iff_of_false nofun fun h => h.2.2.1 (List.isEmpty_iff.1 hempty)
  | false =>
    show (checkNodes s [] decl.nodes >>= fun _ => _) = .ok r ↔ _
    constructor
    · intro h
      obtain ⟨_, hnodes, h⟩ := Except.bind_eq_ok_iff.1 h
      obtain ⟨fallback, hfallback, h⟩ := Except.bind_eq_ok_iff.1 h
      obtain ⟨_, hchecked, h⟩ := Except.bind_eq_ok_iff.1 h
      obtain ⟨condition, hcondition, h⟩ := Except.bind_eq_ok_iff.1 h
      obtain ⟨_, hcheck, h⟩ := Except.bind_eq_ok_iff.1 h
      cases h
      rw [Except.mapError_eq_ok_iff] at hcondition hcheck
      exact ⟨rfl, rfl, List.isEmpty_eq_false_iff.1 hempty, hnodes, hfallback, hchecked, hcondition, hcheck⟩
    · obtain ⟨nodes, fallback, propagateFailure, condition⟩ := r
      rintro ⟨rfl, rfl, -, hnodes, hfallback, hchecked, hcondition, hcheck⟩
      refine Except.bind_eq_ok_iff.2 ⟨(), hnodes, ?_⟩
      refine Except.bind_eq_ok_iff.2 ⟨_, hfallback, ?_⟩
      refine Except.bind_eq_ok_iff.2 ⟨(), hchecked, ?_⟩
      refine Except.bind_eq_ok_iff.2 ⟨_, Except.mapError_eq_ok_iff.2 hcondition, ?_⟩
      exact Except.bind_eq_ok_iff.2 ⟨(), Except.mapError_eq_ok_iff.2 hcheck, rfl⟩

end TaskFlow.FailureRule
