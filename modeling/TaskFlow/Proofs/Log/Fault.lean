import TaskFlow.Proofs.Log.Logged
import TaskFlow.Registry.Basic

/-!
# Failures that are no refusals

- `Fault`: why a step fails: its input is refused, or a conversion to JSON or an evaluation fails;
- `Refuses`: a result that is a failure only where the input is refused; one lemma for each way to put results together;
- `mapError_bind`, `mapError_mapM` and the like: errors of parts are renamed one by one or as errors of the whole.
-/

namespace TaskFlow

/-- Why a step fails. -/
inductive Fault (ε : Type) where
  | refused (e : ε)
  /-- A value is not converted to JSON, or not written as such. -/
  | json
  /-- An implementation is called and has no answer. -/
  | evaluation (e : EvalError)

namespace Fault

variable {ε ε' α : Type}

/-- A refusal by a part as one by the whole. -/
def map (f : ε → ε') : Fault ε → Fault ε'
  | refused e => refused (f e)
  | json => json
  | evaluation e => evaluation e

/-- What a conversion to JSON gives. -/
def converted : Option α → Except (Fault ε) α
  | some a => .ok a
  | none => .error json

end Fault

/-! ## Errors under another name -/

namespace Except

variable {ε ε' α β : Type}

theorem mapError_bind (m : Except ε α) (f : α → Except ε β) (g : ε → ε') :
    (m >>= f).mapError g = m.mapError g >>= fun a => (f a).mapError g := by
  cases m <;> rfl

theorem mapError_map (m : Except ε α) (f : α → β) (g : ε → ε') : (m.map f).mapError g = (m.mapError g).map f := by
  cases m <;> rfl

theorem mapError_mapM (f : α → Except ε β) (g : ε → ε') (as : List α) :
    (as.mapM f).mapError g = as.mapM fun a => (f a).mapError g := by
  induction as with
  | nil => rfl
  | cons a as ih =>
    rw [List.mapM_cons, List.mapM_cons, mapError_bind, ← ih]
    congr 1
    funext b
    exact mapError_bind _ _ _

/-- A refusal is renamed before or after it is told from other faults. -/
theorem mapError_refused (m : Except ε α) (f : ε → ε') :
    (m.mapError .refused).mapError (Fault.map f) = (m.mapError f).mapError .refused := by
  cases m <;> rfl

end Except

namespace Logged

variable {ε ε' ε'' α β : Type}

theorem mapError_mapError (m : Logged ε α) (f : ε → ε') (g : ε' → ε'') :
    (m.mapError f).mapError g = m.mapError (g ∘ f) := by
  obtain ⟨events, result⟩ := m
  cases result <;> rfl

theorem mapError_refused (m : Logged ε α) (f : ε → ε') :
    (m.mapError .refused).mapError (Fault.map f) = (m.mapError f).mapError .refused := by
  rw [mapError_mapError, mapError_mapError]
  rfl

theorem mapError_bind (m : Logged ε α) (f : α → Logged ε β) (g : ε → ε') :
    (m >>= f).mapError g = m.mapError g >>= fun a => (f a).mapError g := by
  obtain ⟨events, result⟩ := m
  cases result <;> rfl

/-- Failures that are described alike leave the same events. -/
theorem mapError_attemptAll (f : α → Logged ε β) (g : ε → ε') {describe : α → ε → Event} {describe' : α → ε' → Event}
    (h : ∀ a e, describe' a (g e) = describe a e) (as : List α) :
    (attemptAll f describe as).mapError g = attemptAll (fun a => (f a).mapError g) describe' as := by
  induction as with
  | nil => rfl
  | cons a as ih =>
    rw [attemptAll, attemptAll, ← ih]
    obtain ⟨events, result⟩ := f a
    cases result with
    | error e =>
      show (⟨_, .error (g e)⟩ : Logged ε' (List β)) = ⟨_, .error (g e)⟩
      rw [h]
      rfl
    | ok b =>
      show (⟨_, _⟩ : Logged ε' (List β)) = ⟨_, _⟩
      congr 1
      exact Except.mapError_map _ _ _

theorem mapError_readAll {read : α → Except ε β} (wrap : ε → ε') (as : List α) :
    readAll (fun a => (read a).mapError .refused) (Fault.map wrap) as = (readAll read wrap as).mapError .refused := by
  show ofExcept _ = ofExcept (((as.mapM read).mapError wrap).mapError Fault.refused)
  rw [← Except.mapError_mapM, Except.mapError_refused]

end Logged

/-! ## Results that fail by refusal only -/

/-- A failure is a refusal. -/
def Refuses {ε α : Type} (m : Except (Fault ε) α) : Prop := ∀ fault, m = .error fault → ∃ e, fault = .refused e

namespace Refuses

variable {ε ε' α β : Type}

theorem ok (a : α) : Refuses (.ok a : Except (Fault ε) α) := nofun

theorem error (e : ε) : Refuses (.error (.refused e) : Except (Fault ε) α) := by
  intro fault h
  cases h
  exact ⟨e, rfl⟩

theorem mapError (r : Except ε α) : Refuses (r.mapError .refused) := by
  cases r with
  | error e => exact error e
  | ok a => exact ok a

theorem converted {o : Option α} (h : o.isSome = true) : Refuses (Fault.converted o : Except (Fault ε) α) := by
  obtain ⟨a, rfl⟩ := Option.isSome_iff_exists.1 h
  exact ok a

theorem rename {m : Except (Fault ε) α} (h : Refuses m) (f : ε → ε') : Refuses (m.mapError (Fault.map f)) := by
  cases m with
  | error fault =>
    obtain ⟨e, rfl⟩ := h fault rfl
    exact error (f e)
  | ok a => exact ok a

theorem map {m : Except (Fault ε) α} (h : Refuses m) (f : α → β) : Refuses (m.map f) := by
  cases m with
  | error fault =>
    obtain ⟨e, rfl⟩ := h fault rfl
    exact error e
  | ok a => exact ok (f a)

theorem bind {m : Except (Fault ε) α} {f : α → Except (Fault ε) β} (hm : Refuses m) (hf : ∀ a, Refuses (f a)) :
    Refuses (m >>= f) := by
  cases m with
  | error fault =>
    obtain ⟨e, rfl⟩ := hm fault rfl
    exact error e
  | ok a => exact hf a

theorem mapM {f : α → Except (Fault ε) β} (hf : ∀ a, Refuses (f a)) (as : List α) : Refuses (as.mapM f) := by
  induction as with
  | nil => exact ok []
  | cons a as ih =>
    rw [List.mapM_cons]
    exact (hf a).bind fun b => ih.bind fun bs => ok (b :: bs)

/-! ### With events -/

theorem logged_bind {m : Logged (Fault ε) α} {f : α → Logged (Fault ε) β} (hm : Refuses m.result)
    (hf : ∀ a, Refuses (f a).result) : Refuses (m >>= f).result := by
  show Refuses (m.bind f).result
  rw [Logged.result_bind]
  exact hm.bind hf

theorem attemptAll {f : α → Logged (Fault ε) β} {describe : α → Fault ε → Event} (hf : ∀ a, Refuses (f a).result)
    (as : List α) : Refuses (Logged.attemptAll f describe as).result := by
  induction as with
  | nil => exact ok []
  | cons a as ih =>
    rw [Logged.attemptAll]
    cases ha : (f a).result with
    | error fault =>
      obtain ⟨e, rfl⟩ := hf a fault ha
      exact error e
    | ok b => exact ih.map (b :: ·)

theorem readAll {read : α → Except (Fault ε) β} (hread : ∀ a, Refuses (read a)) (wrap : ε → ε') (as : List α) :
    Refuses (Logged.readAll read (Fault.map wrap) as).result :=
  (mapM hread as).rename wrap

end Refuses

end TaskFlow
