import Mathlib.Algebra.Group.Nat.Defs
import Mathlib.Logic.Function.Iterate
import TaskFlow.Proofs.Log.Logged
import TaskFlow.Registry.Strategies

/-!
# Intervals of the built-in strategies

- `Backoff`: an interval that is started at some calls and stepped on at the others; `linear`, `doubling` and
  `halving` are those of the strategies that step (`linearIncrease_eq_ok` and the like), which need numbers for their
  arguments to answer any (`numbers_of_linearIncrease` and the like);
- `iterate_linear`, `iterate_doubling`, `iterate_halving`: any number of steps at once, in exact arithmetic;
- `exists_of_random`: what is drawn lies between the two arguments.
-/

namespace TaskFlow

/-- Whether any node of the flow is active. -/
def Progress.active (p : Progress) : Bool := p.activeNodes != 0

/-- An interval that is started at the calls named by `restarts` and stepped on at the others. -/
structure Backoff where
  start : Nat
  next : Nat → Nat
  restarts : Progress → Bool := fun _ => false

namespace Backoff

/-- The interval after the previous one; without a previous one it is started. -/
def interval (b : Backoff) (previous : Option Nat) (p : Progress) : Nat :=
  if b.restarts p then b.start else previous.elim b.start b.next

/-- The interval of an active flow; an idle one has none. -/
def answer (b : Backoff) (previous : Option Nat) (p : Progress) : Option Nat :=
  if p.active then some (b.interval previous p) else none

/-- What is answered is the start or a step from the previous answer. -/
theorem eq_start_or_exists_next (b : Backoff) (previous : Option Nat) (p : Progress) :
    b.interval previous p = b.start ∨ ∃ n, b.interval previous p = b.next n := by
  unfold interval
  split
  · exact Or.inl rfl
  · cases previous with
    | none => exact Or.inl rfl
    | some n => exact Or.inr ⟨n, rfl⟩

/-! ## Intervals of the strategies -/

def linear (start high step : Nat) : Backoff where
  start := start
  next n := min (Strategies.saturate (n + step)) high

def doubling (start high : Nat) : Backoff where
  start := start
  next n := min (Strategies.saturate (n * 2)) high
  restarts := Strategies.hasNews

def halving (start low : Nat) : Backoff where
  start := start
  next n := max (n / 2) low
  restarts := Strategies.hasNews

variable {start high low step : Nat}

/-- Below a bound within the words nothing is seen of the cut-off. -/
theorem min_saturate (hhigh : high < UInt64.size) (n : Nat) : min (Strategies.saturate n) high = min n high := by
  unfold Strategies.saturate
  omega

/-- The start itself is not cut off, so the closed form begins with the first step. -/
theorem iterate_linear (hhigh : high < UInt64.size) (k : Nat) :
    (linear start high step).next^[k + 1] start = min (start + (k + 1) * step) high := by
  induction k with
  | zero =>
    show min (Strategies.saturate (start + step)) high = _
    rw [min_saturate hhigh, Nat.zero_add, Nat.one_mul]
  | succ k ih =>
    rw [Function.iterate_succ_apply', ih]
    show min (Strategies.saturate (min (start + (k + 1) * step) high + step)) high = _
    rw [min_saturate hhigh, Nat.succ_mul (k + 1)]
    omega

theorem iterate_doubling (hhigh : high < UInt64.size) (k : Nat) :
    (doubling start high).next^[k + 1] start = min (start * 2 ^ (k + 1)) high := by
  induction k with
  | zero =>
    show min (Strategies.saturate (start * 2)) high = _
    rw [min_saturate hhigh, Nat.zero_add, Nat.pow_one]
  | succ k ih =>
    rw [Function.iterate_succ_apply', ih]
    show min (Strategies.saturate (min (start * 2 ^ (k + 1)) high * 2)) high = _
    rw [min_saturate hhigh, Nat.pow_succ 2 (k + 1), ← Nat.mul_assoc]
    omega

theorem iterate_halving (k : Nat) : (halving start low).next^[k + 1] start = max (start / 2 ^ (k + 1)) low := by
  induction k with
  | zero =>
    show max (start / 2) low = _
    rw [Nat.zero_add, Nat.pow_one]
  | succ k ih =>
    rw [Function.iterate_succ_apply', ih]
    show max (max (start / 2 ^ (k + 1)) low / 2) low = _
    rw [Nat.pow_succ 2 (k + 1), ← Nat.div_div_eq_div_mul]
    omega

end Backoff

/-! ## Answers of the strategies -/

namespace Strategies

variable {p : Progress} {args : Dict Json} {previous : Option Nat} {start high low step n : Nat}

theorem natArg_eq_ok_iff {name : String} : natArg args name = .ok n ↔ (args.get? name).bind Json.asNat? = some n := by
  unfold natArg
  cases (args.get? name).bind Json.asNat? with
  | none => exact iff_of_false nofun nofun
  | some m => exact ⟨fun h => by cases h; rfl, fun h => by cases h; rfl⟩

theorem whileActive_eq_ok {answer : Except EvalError Nat} (h : answer = .ok n) :
    whileActive p answer = .ok (if p.active then some n else none) := by
  subst h
  unfold whileActive Progress.active
  by_cases hidle : p.activeNodes = 0
  · simp [hidle]
  · simp [hidle, Except.map]

theorem whileActive_eq_some_iff {answer : Except EvalError Nat} :
    whileActive p answer = .ok (some n) ↔ p.active = true ∧ answer = .ok n := by
  unfold whileActive Progress.active
  by_cases hidle : p.activeNodes = 0
  · simp [hidle]
  · cases answer with
    | error e => simp [hidle, Except.map]
    | ok m => simp [hidle, Except.map]

/-- With numbers for its arguments a strategy answers as its interval. -/
theorem linearIncrease_eq_ok (hstart : natArg args "start_retry" = .ok start)
    (hhigh : natArg args "max_retry" = .ok high) (hstep : natArg args "step" = .ok step) :
    linearIncrease { p with previousRetry := previous } args =
      .ok ((Backoff.linear start high step).answer previous p) := by
  refine whileActive_eq_ok ?_
  rw [hstart, hhigh, hstep]
  cases previous <;> rfl

theorem biexponentialIncrease_eq_ok (hstart : natArg args "start_retry" = .ok start)
    (hhigh : natArg args "max_retry" = .ok high) :
    biexponentialIncrease { p with previousRetry := previous } args =
      .ok ((Backoff.doubling start high).answer previous p) := by
  refine whileActive_eq_ok ?_
  rw [hstart, hhigh]
  show (if hasNews p then _ else _) = Except.ok (if hasNews p then _ else _)
  split
  · rfl
  · cases previous <;> rfl

theorem biexponentialDecrease_eq_ok (hstart : natArg args "start_retry" = .ok start)
    (hlow : natArg args "stop_retry" = .ok low) :
    biexponentialDecrease { p with previousRetry := previous } args =
      .ok ((Backoff.halving start low).answer previous p) := by
  refine whileActive_eq_ok ?_
  rw [hstart, hlow]
  show (if hasNews p then _ else _) = Except.ok (if hasNews p then _ else _)
  split
  · rfl
  · cases previous <;> rfl

/-- All these arguments are natural numbers. -/
def Numbers (args : Dict Json) (params : List String) : Prop := ∀ x ∈ params, ∃ n, natArg args x = .ok n

theorem numbers_nil : Numbers args [] := nofun

theorem numbers_cons {name : String} {params : List String} :
    Numbers args (name :: params) ↔ (∃ n, natArg args name = .ok n) ∧ Numbers args params := List.forall_mem_cons

theorem numbers_of_bind {name : String} {params : List String} {f : Nat → Except EvalError Nat}
    (h : natArg args name >>= f = .ok n) (hrest : ∀ m, f m = .ok n → Numbers args params) :
    Numbers args (name :: params) := by
  obtain ⟨m, hm, hf⟩ := Except.bind_eq_ok_iff.1 h
  exact numbers_cons.2 ⟨⟨m, hm⟩, hrest m hf⟩

/-- Who answers a number has numbers for its arguments. -/
theorem numbers_of_linearIncrease (h : linearIncrease p args = .ok (some n)) :
    Numbers args ["start_retry", "max_retry", "step"] := by
  obtain ⟨-, hanswer⟩ := whileActive_eq_some_iff.1 h
  refine numbers_of_bind hanswer fun start hanswer => ?_
  refine numbers_of_bind hanswer fun high hanswer => ?_
  exact numbers_of_bind hanswer fun step _ => numbers_nil

theorem numbers_of_biexponentialIncrease (h : biexponentialIncrease p args = .ok (some n)) :
    Numbers args ["start_retry", "max_retry"] := by
  obtain ⟨-, hanswer⟩ := whileActive_eq_some_iff.1 h
  refine numbers_of_bind hanswer fun start hanswer => ?_
  exact numbers_of_bind hanswer fun high _ => numbers_nil

theorem numbers_of_biexponentialDecrease (h : biexponentialDecrease p args = .ok (some n)) :
    Numbers args ["start_retry", "stop_retry"] := by
  obtain ⟨-, hanswer⟩ := whileActive_eq_some_iff.1 h
  refine numbers_of_bind hanswer fun start hanswer => ?_
  exact numbers_of_bind hanswer fun low _ => numbers_nil

/-- What is drawn lies between the two arguments, which are numbers in this order. -/
theorem exists_of_random (h : random p args = .ok (some n)) :
    ∃ start high, natArg args "start_retry" = .ok start ∧ natArg args "max_retry" = .ok high ∧
      start ≤ n ∧ n ≤ high := by
  obtain ⟨-, hanswer⟩ := whileActive_eq_some_iff.1 h
  obtain ⟨start, hstart, hanswer⟩ := Except.bind_eq_ok_iff.1 hanswer
  obtain ⟨high, hhigh, hanswer⟩ := Except.bind_eq_ok_iff.1 hanswer
  refine ⟨start, high, hstart, hhigh, ?_⟩
  split at hanswer
  · cases hanswer
  · cases hanswer
    have hdraw : p.draw % (high - start + 1) < high - start + 1 := Nat.mod_lt _ (Nat.succ_pos _)
    omega

end Strategies

end TaskFlow
