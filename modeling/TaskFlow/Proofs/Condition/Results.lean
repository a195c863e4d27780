import TaskFlow.Proofs.Condition.Progress

/-!
# What an evaluation takes from the results

- `Guard.evaluate_congr`: a guard depends on the results and the arguments only through its calls;
- `Guard.evaluate_eq_of_requiresMessage`: without calls that take a message, it does not depend on them at all;
- `Guard.exists_ok_of_signed_builtin`: a guard over built-in predicates none of which takes a message has a value.
-/

namespace TaskFlow

namespace Call

variable {registry : Registry} {c : Call} {p : PredicateSignature}

/-- A call that takes no message never looks at the results. -/
theorem evaluate_eq_of_requiresMessage (h : c.requiresMessage = false) (results results' : Results)
    (nodeArgs : Option Json) :
    c.evaluate registry results nodeArgs = c.evaluate registry results' nodeArgs := by
  have hmessage : c.messageFrom results = c.messageFrom results' := by simp [messageFrom, h]
  simp only [evaluate, hmessage]

/-- Whoever compares a length takes the message that it is the length of. -/
theorem requiresMessage_of_comparesLength (h : c.Signed .builtin p) (hlength : c.ComparesLength) :
    c.requiresMessage = true := by
  obtain ⟨name, params, eval, hmem, hfunction, rfl⟩ := Registry.exists_mem_of_predicate?_builtin h.registered
  have hname : name ∈ Predicates.comparingLength := by simpa [hfunction] using hlength.2
  rw [h.requiresMessage_eq]
  exact List.contains_iff_mem.2 (Predicates.messageParam_mem_of_comparingLength _ hmem hname)

/-- A call of a built-in predicate that takes no message always answers. -/
theorem exists_ok_of_signed_builtin (h : c.Signed .builtin p) (hmessage : c.requiresMessage = false)
    (results : Results) (nodeArgs : Option Json) : ∃ b, c.evaluate .builtin results nodeArgs = .ok b := by
  have hhas : c.HasMessage results := fun htrue => by simp [hmessage] at htrue
  rcases answers_of_signed_builtin h hhas nodeArgs with hok | ⟨-, hlength, -⟩
  · exact hok
  · have htrue := requiresMessage_of_comparesLength h hlength
    simp [hmessage] at htrue

end Call

namespace Guard

variable {registry : Registry} {results results' : Results} {nodeArgs nodeArgs' : Option Json}

mutual

/-- A guard has the same value under two maps of results, with two arguments, if each of its calls has. -/
theorem evaluate_congr : ∀ {g : Guard},
    (∀ c ∈ g.calls, c.evaluate registry results nodeArgs = c.evaluate registry results' nodeArgs') →
    g.evaluate registry results nodeArgs = g.evaluate registry results' nodeArgs'
  | always, _ => rfl
  | call c, h => h c (by simp [calls])
  | all gs, h => evaluateAll_congr h
  | any gs, h => evaluateAny_congr h
  | negate g, h => by
    have hg : g.evaluate registry results nodeArgs = g.evaluate registry results' nodeArgs' := evaluate_congr h
    rw [evaluate, evaluate, hg]

theorem evaluateAll_congr : ∀ {gs : List Guard},
    (∀ c ∈ callsAll gs, c.evaluate registry results nodeArgs = c.evaluate registry results' nodeArgs') →
    evaluateAll registry results nodeArgs gs = evaluateAll registry results' nodeArgs' gs
  | [], _ => rfl
  | g :: gs, h => by
    have hg : g.evaluate registry results nodeArgs = g.evaluate registry results' nodeArgs' :=
      evaluate_congr fun c hc => h c (List.mem_append_left _ hc)
    have hgs : evaluateAll registry results nodeArgs gs = evaluateAll registry results' nodeArgs' gs :=
      evaluateAll_congr fun c hc => h c (List.mem_append_right _ hc)
    rw [evaluateAll, evaluateAll, hg, hgs]

theorem evaluateAny_congr : ∀ {gs : List Guard},
    (∀ c ∈ callsAll gs, c.evaluate registry results nodeArgs = c.evaluate registry results' nodeArgs') →
    evaluateAny registry results nodeArgs gs = evaluateAny registry results' nodeArgs' gs
  | [], _ => rfl
  | g :: gs, h => by
    have hg : g.evaluate registry results nodeArgs = g.evaluate registry results' nodeArgs' :=
      evaluate_congr fun c hc => h c (List.mem_append_left _ hc)
    have hgs : evaluateAny registry results nodeArgs gs = evaluateAny registry results' nodeArgs' gs :=
      evaluateAny_congr fun c hc => h c (List.mem_append_right _ hc)
    rw [evaluateAny, evaluateAny, hg, hgs]

end

/-- A guard without calls that take a message does not depend on the results. -/
theorem evaluate_eq_of_requiresMessage {g : Guard} (h : ∀ c ∈ g.calls, c.requiresMessage = false)
    (results results' : Results) :
    g.evaluate registry results nodeArgs = g.evaluate registry results' nodeArgs :=
  evaluate_congr fun c hc => Call.evaluate_eq_of_requiresMessage (h c hc) results results' nodeArgs

/-- A guard over built-in predicates that take no message has a value, whatever the results and the arguments. -/
theorem exists_ok_of_signed_builtin {g : Guard} (hsigned : ∀ c ∈ g.calls, ∃ p, c.Signed .builtin p)
    (hmessage : ∀ c ∈ g.calls, c.requiresMessage = false) :
    ∃ b, g.evaluate .builtin results nodeArgs = .ok b := by
  cases hvalue : g.evaluate .builtin results nodeArgs with
  | ok b => exact ⟨b, rfl⟩
  | error e =>
    obtain ⟨c, hc, herror⟩ := exists_call_of_evaluate_eq_error hvalue
    obtain ⟨p, hp⟩ := hsigned c hc
    obtain ⟨b, hok⟩ := Call.exists_ok_of_signed_builtin hp (hmessage c hc) results nodeArgs
    rw [hok] at herror
    cases herror

end Guard

end TaskFlow
