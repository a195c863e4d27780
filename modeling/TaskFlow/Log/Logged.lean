import TaskFlow.Log.Event

/-!
# Results with their events

- `Logged`: a result with the events on the way to it. A failure keeps the events before it (`events_bind`), and the
  result is the one without events (`result_bind`);
- `forAll` stops at the first failure, `attemptAll` goes on and describes every one.
-/

namespace TaskFlow

/-- A result with the events on the way to it. -/
structure Logged (ε α : Type) where
  events : List Event
  result : Except ε α

namespace Logged

variable {ε ε' α β : Type}

def ofExcept (r : Except ε α) : Logged ε α := ⟨[], r⟩

def fail (e : ε) : Logged ε α := ofExcept (.error e)

/-- An event on its own. -/
def report (e : Event) : Logged ε Unit := ⟨[e], .ok ()⟩

def reportAll (es : List Event) : Logged ε Unit := ⟨es, .ok ()⟩

def reportIf (p : Bool) (e : Event) : Logged ε Unit := reportAll (if p then [e] else [])

def bind (m : Logged ε α) (f : α → Logged ε β) : Logged ε β :=
  match m.result with
  | .ok a => ⟨m.events ++ (f a).events, (f a).result⟩
  | .error e => ⟨m.events, .error e⟩

instance : Monad (Logged ε) where
  pure a := ⟨[], .ok a⟩
  bind := bind

def mapError (f : ε → ε') (m : Logged ε α) : Logged ε' α := ⟨m.events, m.result.mapError f⟩

/-- Every item in order, up to the first failure. -/
def forAll (f : α → Logged ε β) : List α → Logged ε (List β)
  | [] => ⟨[], .ok []⟩
  | a :: as => (f a).bind fun b => (forAll f as).bind fun bs => ⟨[], .ok (b :: bs)⟩

/-- Every item read in order, up to the first failure; reading reports nothing. -/
def readAll (read : α → Except ε β) (wrap : ε → ε') (items : List α) : Logged ε' (List β) :=
  ofExcept ((items.mapM read).mapError wrap)

/-- Every item in order, failures included. Each failure is followed by the event that describes it, and the first
one is the result. -/
def attemptAll (f : α → Logged ε β) (describe : α → ε → Event) : List α → Logged ε (List β)
  | [] => ⟨[], .ok []⟩
  | a :: as =>
    let rest := attemptAll f describe as
    match (f a).result with
    | .ok b => ⟨(f a).events ++ rest.events, rest.result.map (b :: ·)⟩
    | .error e => ⟨(f a).events ++ describe a e :: rest.events, .error e⟩

theorem events_bind (m : Logged ε α) (f : α → Logged ε β) :
    (m.bind f).events = m.events ++ (m.result.toOption.elim [] fun a => (f a).events) := by
  unfold bind
  cases m.result <;> simp [Except.toOption]

theorem result_bind (m : Logged ε α) (f : α → Logged ε β) :
    (m.bind f).result = m.result.bind fun a => (f a).result := by
  unfold bind
  cases m.result <;> rfl

end Logged

end TaskFlow
