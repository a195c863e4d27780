import Mathlib.Data.List.Induction
import TaskFlow.Flow.Sampling
import TaskFlow.Proofs.Registry.Builtin
import TaskFlow.Proofs.Registry.Strategies

/-!
# Runs of sampling calls

- `Sampling.last`, `Sampling.answer`: a run of calls, each told the last number answered before it;
- `Since`: how many active calls a run has made since the interval was started, which it is at the first active call
  and wherever a strategy starts over (`exists_since`);
- `Follows.last_of_since`: a strategy that follows an interval has stepped it on as often;
- `strategies_answer_in_closed_form`: so each answer is known without the answers before it;
- `numbers_keep_bound_but_start`: only the start of an interval may be out of the bounds of its strategy.
-/

namespace TaskFlow

/-- `k` active calls have been made since the one at which the interval was started: the first active call of the run,
or one that starts it over. -/
inductive Since (restarts : Progress → Bool) : List Progress → Nat → Prop
  | start {calls : List Progress} {p : Progress} : p.active = true →
      (restarts p = true ∨ ∀ q ∈ calls, q.active = false) → Since restarts (calls ++ [p]) 0
  | idle {calls : List Progress} {p : Progress} {k : Nat} : Since restarts calls k → p.active = false →
      Since restarts (calls ++ [p]) k
  | quiet {calls : List Progress} {p : Progress} {k : Nat} : Since restarts calls k → p.active = true →
      restarts p = false → Since restarts (calls ++ [p]) (k + 1)

/-- Whoever has made an active call has started the interval. -/
theorem exists_since (restarts : Progress → Bool) {calls : List Progress} (h : ∃ q ∈ calls, q.active = true) :
    ∃ k, Since restarts calls k := by
  induction calls using List.reverseRecOn with
  | nil =>
    obtain ⟨q, hq, -⟩ := h
    cases hq
  | append_singleton calls p ih =>
    by_cases hbefore : ∃ q ∈ calls, q.active = true
    · obtain ⟨k, hk⟩ := ih hbefore
      cases hp : p.active with
      | false => exact ⟨k, hk.idle hp⟩
      | true =>
        cases hrestarts : restarts p with
        | false => exact ⟨k + 1, hk.quiet hp hrestarts⟩
        | true => exact ⟨0, .start hp (.inl hrestarts)⟩
    · have hidle : ∀ q ∈ calls, q.active = false := by
        intro q hq
        exact Bool.eq_false_iff.2 fun hactive => hbefore ⟨q, hq, hactive⟩
      obtain ⟨q, hq, hactive⟩ := h
      rw [List.mem_append, List.mem_singleton] at hq
      obtain hq | rfl := hq
      · exact absurd ⟨q, hq, hactive⟩ hbefore
      · exact ⟨0, .start hactive (.inr hidle)⟩

namespace Sampling

variable (registry : Registry) (s : Sampling)

/-- The last number answered after a call; a call without a number for its answer leaves it. -/
def told (previous : Option Nat) (p : Progress) : Option Nat :=
  match s.next registry { p with previousRetry := previous } with
  | .ok (some n) => some n
  | _ => previous

/-- The last number answered in a run of calls, each told the last number answered before it. -/
def last (calls : List Progress) : Option Nat := calls.foldl (s.told registry) none

/-- The answer to a call at the end of a run. -/
def answer (calls : List Progress) (p : Progress) : Except EvalError (Option Nat) :=
  s.next registry { p with previousRetry := s.last registry calls }

/-- A strategy that answers as an interval does, whatever it is told. -/
def Follows (b : Backoff) : Prop :=
  ∀ previous p, s.next registry { p with previousRetry := previous } = .ok (b.answer previous p)

variable {registry s} {b : Backoff} {calls : List Progress} {p : Progress} {k : Nat}

theorem last_concat : s.last registry (calls ++ [p]) = s.told registry (s.last registry calls) p := by
  rw [last, last, List.foldl_append, List.foldl_cons, List.foldl_nil]

namespace Follows

theorem told_of_idle (h : s.Follows registry b) (hp : p.active = false) (previous : Option Nat) :
    s.told registry previous p = previous := by
  rw [told, h previous p, Backoff.answer, hp]
  rfl

theorem told_of_active (h : s.Follows registry b) (hp : p.active = true) (previous : Option Nat) :
    s.told registry previous p = some (b.interval previous p) := by
  rw [told, h previous p, Backoff.answer, if_pos hp]

theorem last_of_idle (h : s.Follows registry b) (hidle : ∀ q ∈ calls, q.active = false) :
    s.last registry calls = none := by
  induction calls using List.reverseRecOn with
  | nil => rfl
  | append_singleton calls p ih =>
    rw [last_concat, h.told_of_idle (hidle p (by simp)), ih fun q hq => hidle q (by simp [hq])]

/-- An interval is stepped on once for each active call since it was started. -/
theorem last_of_since (h : s.Follows registry b) (hsince : Since b.restarts calls k) :
    s.last registry calls = some (b.next^[k] b.start) := by
  induction hsince with
  | start hp hstart =>
    rw [last_concat, h.told_of_active hp, Backoff.interval]
    -- Either the call starts the interval over, or nothing has been answered yet.
    rcases hstart with hrestarts | hidle
    · rw [if_pos hrestarts]
      rfl
    · rw [h.last_of_idle hidle, Option.elim_none, ite_self]
      rfl
  | idle _ hp ih => rw [last_concat, h.told_of_idle hp, ih]
  | quiet _ hp hquiet ih =>
    rw [last_concat, h.told_of_active hp, ih, Backoff.interval, hquiet, Function.iterate_succ_apply']
    rfl

theorem answer_of_idle (h : s.Follows registry b) (hp : p.active = false) : s.answer registry calls p = .ok none := by
  rw [answer, h, Backoff.answer, hp]
  rfl

theorem answer_of_since (h : s.Follows registry b) (hp : p.active = true) (hsince : Since b.restarts (calls ++ [p]) k) :
    s.answer registry calls p = .ok (some (b.next^[k] b.start)) := by
  rw [← h.last_of_since hsince, last_concat, h.told_of_active hp, answer, h, Backoff.answer, if_pos hp]

end Follows

/-! ## Closed forms -/

/-- The strategy of a sampling is a built-in one. -/
def Runs (registry : Registry) (s : Sampling) (name : String) : Prop :=
  registry.strategy? s.function = Registry.builtin.strategy? ⟨Strategies.moduleName, name⟩

theorem Runs.next_eq {name : String} {eval : Progress → Dict Json → Except EvalError (Option Nat)}
    (h : s.Runs registry name) (hmem : ∃ params, (name, params, eval) ∈ builtinStrategies) (p : Progress) :
    s.next registry p = eval p s.args := by
  obtain ⟨params, hmem⟩ := hmem
  rw [next, show registry.strategy? s.function = _ from h, Registry.strategy?_builtin hmem]
  rfl

theorem Runs.next_linear (h : s.Runs registry "linear_increase") (p : Progress) :
    s.next registry p = Strategies.linearIncrease p s.args :=
  h.next_eq ⟨["start_retry", "max_retry", "step"], by simp [builtinStrategies]⟩ p

theorem Runs.next_doubling (h : s.Runs registry "biexponential_increase") (p : Progress) :
    s.next registry p = Strategies.biexponentialIncrease p s.args :=
  h.next_eq ⟨["start_retry", "max_retry"], by simp [builtinStrategies]⟩ p

theorem Runs.next_halving (h : s.Runs registry "biexponential_decrease") (p : Progress) :
    s.next registry p = Strategies.biexponentialDecrease p s.args :=
  h.next_eq ⟨["start_retry", "stop_retry"], by simp [builtinStrategies]⟩ p

theorem Runs.next_random (h : s.Runs registry "random") (p : Progress) :
    s.next registry p = Strategies.random p s.args :=
  h.next_eq ⟨["start_retry", "max_retry"], by simp [builtinStrategies]⟩ p

/-- Among the arguments are these numbers, each of 64 bits. -/
def Gives (s : Sampling) (numbers : List (String × Nat)) : Prop :=
  ∀ e ∈ numbers, s.args.get? e.1 = some (.ofNat e.2) ∧ e.2 < UInt64.size

theorem Gives.natArg {numbers : List (String × Nat)} (h : s.Gives numbers) {name : String} {n : Nat}
    (hmem : (name, n) ∈ numbers) : Strategies.natArg s.args name = .ok n := by
  rw [Strategies.natArg_eq_ok_iff, (h _ hmem).1]
  simp [Json.asNat?, Json.ofNat]

/-- The answers to a run: `start` wherever the interval is started, `f k` to the `k`-th active call since. -/
structure AnswersBy (registry : Registry) (s : Sampling) (restarts : Progress → Bool) (start : Nat) (f : Nat → Nat) :
    Prop where
  idle : ∀ calls p, p.active = false → s.answer registry calls p = .ok none
  counted : ∀ calls p, p.active = true → ∃ k, Since restarts (calls ++ [p]) k
  started : ∀ calls p, p.active = true → Since restarts (calls ++ [p]) 0 → s.answer registry calls p = .ok (some start)
  stepped : ∀ calls p k, p.active = true → Since restarts (calls ++ [p]) (k + 1) →
    s.answer registry calls p = .ok (some (f (k + 1)))

theorem Follows.answersBy {f : Nat → Nat} (h : s.Follows registry b) (hf : ∀ k, b.next^[k + 1] b.start = f (k + 1)) :
    s.AnswersBy registry b.restarts b.start f where
  idle _ _ hp := h.answer_of_idle hp
  counted _ p hp := exists_since _ ⟨p, List.mem_append_right _ List.mem_cons_self, hp⟩
  started _ _ hp hsince := h.answer_of_since hp hsince
  stepped _ _ k hp hsince := by rw [h.answer_of_since hp hsince, hf k]

section Given

variable {start high low step : Nat}

theorem Runs.follows_linear (h : s.Runs registry "linear_increase")
    (hstart : Strategies.natArg s.args "start_retry" = .ok start)
    (hhigh : Strategies.natArg s.args "max_retry" = .ok high) (hstep : Strategies.natArg s.args "step" = .ok step) :
    s.Follows registry (.linear start high step) := by
  intro previous p
  rw [h.next_linear, Strategies.linearIncrease_eq_ok hstart hhigh hstep]

theorem Runs.follows_doubling (h : s.Runs registry "biexponential_increase")
    (hstart : Strategies.natArg s.args "start_retry" = .ok start)
    (hhigh : Strategies.natArg s.args "max_retry" = .ok high) : s.Follows registry (.doubling start high) := by
  intro previous p
  rw [h.next_doubling, Strategies.biexponentialIncrease_eq_ok hstart hhigh]

theorem Runs.follows_halving (h : s.Runs registry "biexponential_decrease")
    (hstart : Strategies.natArg s.args "start_retry" = .ok start)
    (hlow : Strategies.natArg s.args "stop_retry" = .ok low) : s.Follows registry (.halving start low) := by
  intro previous p
  rw [h.next_halving, Strategies.biexponentialDecrease_eq_ok hstart hlow]

end Given

/-- **Answers in closed form**: every answer of a stepping strategy is known from the calls alone, in exact
arithmetic. -/
theorem strategies_answer_in_closed_form (registry : Registry) (s : Sampling) (start high low step : Nat) :
    (s.Runs registry "linear_increase" →
      s.Gives [("start_retry", start), ("max_retry", high), ("step", step)] →
        s.AnswersBy registry (fun _ => false) start fun k => min (start + k * step) high) ∧
      (s.Runs registry "biexponential_increase" → s.Gives [("start_retry", start), ("max_retry", high)] →
        s.AnswersBy registry Strategies.hasNews start fun k => min (start * 2 ^ k) high) ∧
      (s.Runs registry "biexponential_decrease" → s.Gives [("start_retry", start), ("stop_retry", low)] →
        s.AnswersBy registry Strategies.hasNews start fun k => max (start / 2 ^ k) low) := by
  refine ⟨fun hruns hgives => ?linear, fun hruns hgives => ?doubling, fun hruns hgives => ?halving⟩
  case linear =>
    have hhigh : high < UInt64.size := (hgives ("max_retry", high) (by simp)).2
    have hfollows : s.Follows registry (.linear start high step) :=
      hruns.follows_linear (hgives.natArg (by simp)) (hgives.natArg (by simp)) (hgives.natArg (by simp))
    exact hfollows.answersBy (Backoff.iterate_linear hhigh)
  case doubling =>
    have hhigh : high < UInt64.size := (hgives ("max_retry", high) (by simp)).2
    have hfollows : s.Follows registry (.doubling start high) :=
      hruns.follows_doubling (hgives.natArg (by simp)) (hgives.natArg (by simp))
    exact hfollows.answersBy (Backoff.iterate_doubling hhigh)
  case halving =>
    have hfollows : s.Follows registry (.halving start low) :=
      hruns.follows_halving (hgives.natArg (by simp)) (hgives.natArg (by simp))
    exact hfollows.answersBy Backoff.iterate_halving

/-- Close to the largest word an interval is started over, a call is idle, and two more reach the bound. -/
theorem strategies_answer_in_closed_form_doubling :
    let s : Sampling :=
      ⟨⟨Strategies.moduleName, "biexponential_increase"⟩,
        Dict.ofList [("start_retry", .ofNat (2 ^ 62 + 1)), ("max_retry", .ofNat (2 ^ 64 - 1))]⟩
    let calls : List Progress := [{ activeNodes := 1, newStartedNodes := 1 }, {}, { activeNodes := 2 }]
    s.Gives [("start_retry", 2 ^ 62 + 1), ("max_retry", 2 ^ 64 - 1)] ∧
      s.answer .builtin calls { activeNodes := 1 } = .ok (some (2 ^ 64 - 1)) := by
  intro s calls
  have hruns : s.Runs .builtin "biexponential_increase" := rfl
  have hgives : s.Gives [("start_retry", 2 ^ 62 + 1), ("max_retry", 2 ^ 64 - 1)] := by
    intro e he
    simp only [List.mem_cons, List.not_mem_nil, or_false] at he
    obtain rfl | rfl := he
    · exact ⟨rfl, by decide⟩
    · exact ⟨rfl, by decide⟩
  obtain ⟨-, hdoubling, -⟩ := strategies_answer_in_closed_form .builtin s (2 ^ 62 + 1) (2 ^ 64 - 1) 0 0
  have hreset : Since Strategies.hasNews ([] ++ [{ activeNodes := 1, newStartedNodes := 1 }]) 0 := .start rfl (.inl rfl)
  have hsince : Since Strategies.hasNews (calls ++ [{ activeNodes := 1 }]) 2 :=
    ((hreset.idle (p := {}) rfl).quiet (p := { activeNodes := 2 }) rfl rfl).quiet rfl rfl
  have hbound : min ((2 ^ 62 + 1) * 2 ^ 2) (2 ^ 64 - 1) = 2 ^ 64 - 1 := by decide
  exact ⟨hgives, hbound ▸ (hdoubling hruns hgives).stepped calls _ 1 rfl hsince⟩

/-! ## Bounds -/

/-- A number that is answered in some run. -/
def CanAnswer (registry : Registry) (s : Sampling) (n : Nat) : Prop :=
  ∃ calls p, s.answer registry calls p = .ok (some n)

/-- Every number answered stands in the relation to an argument. -/
def Keeps (registry : Registry) (s : Sampling) (R : Nat → Nat → Prop) (param : String) : Prop :=
  ∀ n, s.CanAnswer registry n → ∃ bound, Strategies.natArg s.args param = .ok bound ∧ R n bound

/-- Every number answered stands in the relation to an argument but for the start of the interval, which is answered
whenever the arguments are numbers. -/
structure KeepsButStart (registry : Registry) (s : Sampling) (R : Nat → Nat → Prop) (param : String)
    (params : List String) : Prop where
  others : s.Keeps registry (fun n bound => R n bound ∨ Strategies.natArg s.args "start_retry" = .ok n) param
  all_iff : s.Keeps registry R param ↔
    (Strategies.Numbers s.args params → ∃ start bound, Strategies.natArg s.args "start_retry" = .ok start ∧
      Strategies.natArg s.args param = .ok bound ∧ R start bound)

theorem Follows.canAnswer_start (h : s.Follows registry b) : s.CanAnswer registry b.start := by
  have hsince : Since b.restarts ([] ++ [{ activeNodes := 1 }]) 0 := .start rfl (.inr nofun)
  exact ⟨[], { activeNodes := 1 }, h.answer_of_since rfl hsince⟩

theorem Follows.eq_start_or_exists_next {n : Nat} (h : s.Follows registry b) (hn : s.CanAnswer registry n) :
    n = b.start ∨ ∃ m, n = b.next m := by
  obtain ⟨calls, p, hanswer⟩ := hn
  rw [answer, h, Backoff.answer] at hanswer
  split at hanswer
  · cases hanswer
    exact b.eq_start_or_exists_next _ p
  · cases hanswer

/-- An interval keeps to what each of its steps keeps to. -/
theorem keepsButStart_of_follows {R : Nat → Nat → Prop} {param : String} {params : List String}
    (hnumbers : ∀ n, s.CanAnswer registry n → Strategies.Numbers s.args params)
    (hfollows : Strategies.Numbers s.args params → ∃ b bound, s.Follows registry b ∧
      Strategies.natArg s.args "start_retry" = .ok b.start ∧ Strategies.natArg s.args param = .ok bound ∧
      ∀ n, R (b.next n) bound) :
    s.KeepsButStart registry R param params where
  others n hn := by
    obtain ⟨b, bound, hb, hstart, hbound, hnext⟩ := hfollows (hnumbers n hn)
    refine ⟨bound, hbound, ?_⟩
    rcases hb.eq_start_or_exists_next hn with rfl | ⟨m, rfl⟩
    · exact .inr hstart
    · exact .inl (hnext m)
  all_iff := by
    constructor
    · intro hkeeps hgiven
      obtain ⟨b, -, hb, hstart, -, -⟩ := hfollows hgiven
      obtain ⟨bound, hbound, hR⟩ := hkeeps b.start hb.canAnswer_start
      exact ⟨b.start, bound, hstart, hbound, hR⟩
    · intro hwithin n hn
      obtain ⟨b, bound, hb, hstart, hbound, hnext⟩ := hfollows (hnumbers n hn)
      obtain ⟨start, bound', hstart', hbound', hR⟩ := hwithin (hnumbers n hn)
      cases hstart.symm.trans hstart'
      cases hbound.symm.trans hbound'
      refine ⟨bound, hbound, ?_⟩
      rcases hb.eq_start_or_exists_next hn with rfl | ⟨m, rfl⟩
      · exact hR
      · exact hnext m

theorem Runs.keepsButStart_linear (h : s.Runs registry "linear_increase") :
    s.KeepsButStart registry (· ≤ ·) "max_retry" ["start_retry", "max_retry", "step"] := by
  refine keepsButStart_of_follows ?numbers fun hnumbers => ?follows
  case numbers =>
    rintro n ⟨calls, p, hanswer⟩
    rw [answer, h.next_linear] at hanswer
    exact Strategies.numbers_of_linearIncrease hanswer
  case follows =>
    obtain ⟨⟨start, hstart⟩, hnumbers⟩ := Strategies.numbers_cons.1 hnumbers
    obtain ⟨⟨high, hhigh⟩, hnumbers⟩ := Strategies.numbers_cons.1 hnumbers
    obtain ⟨⟨step, hstep⟩, -⟩ := Strategies.numbers_cons.1 hnumbers
    exact ⟨_, high, h.follows_linear hstart hhigh hstep, hstart, hhigh, fun _ => Nat.min_le_right _ _⟩

theorem Runs.keepsButStart_doubling (h : s.Runs registry "biexponential_increase") :
    s.KeepsButStart registry (· ≤ ·) "max_retry" ["start_retry", "max_retry"] := by
  refine keepsButStart_of_follows ?numbers fun hnumbers => ?follows
  case numbers =>
    rintro n ⟨calls, p, hanswer⟩
    rw [answer, h.next_doubling] at hanswer
    exact Strategies.numbers_of_biexponentialIncrease hanswer
  case follows =>
    obtain ⟨⟨start, hstart⟩, hnumbers⟩ := Strategies.numbers_cons.1 hnumbers
    obtain ⟨⟨high, hhigh⟩, -⟩ := Strategies.numbers_cons.1 hnumbers
    exact ⟨_, high, h.follows_doubling hstart hhigh, hstart, hhigh, fun _ => Nat.min_le_right _ _⟩

theorem Runs.keepsButStart_halving (h : s.Runs registry "biexponential_decrease") :
    s.KeepsButStart registry (· ≥ ·) "stop_retry" ["start_retry", "stop_retry"] := by
  refine keepsButStart_of_follows ?numbers fun hnumbers => ?follows
  case numbers =>
    rintro n ⟨calls, p, hanswer⟩
    rw [answer, h.next_halving] at hanswer
    exact Strategies.numbers_of_biexponentialDecrease hanswer
  case follows =>
    obtain ⟨⟨start, hstart⟩, hnumbers⟩ := Strategies.numbers_cons.1 hnumbers
    obtain ⟨⟨low, hlow⟩, -⟩ := Strategies.numbers_cons.1 hnumbers
    exact ⟨_, low, h.follows_halving hstart hlow, hstart, hlow, fun _ => Nat.le_max_right _ _⟩

/-- What is drawn keeps to its bound. -/
theorem Runs.keeps_random (h : s.Runs registry "random") : s.Keeps registry (· ≤ ·) "max_retry" := by
  rintro n ⟨calls, p, hanswer⟩
  rw [answer, h.next_random] at hanswer
  obtain ⟨-, high, -, hhigh, -, hle⟩ := Strategies.exists_of_random hanswer
  exact ⟨high, hhigh, hle⟩

/-- **Only the start of an interval may be out of bounds**: every other number that a stepping strategy answers keeps to
its bound, and the start does just if it is so given. What is drawn at random always keeps to it. -/
theorem numbers_keep_bound_but_start (registry : Registry) (s : Sampling) :
    (s.Runs registry "linear_increase" →
      s.KeepsButStart registry (· ≤ ·) "max_retry" ["start_retry", "max_retry", "step"]) ∧
      (s.Runs registry "biexponential_increase" →
        s.KeepsButStart registry (· ≤ ·) "max_retry" ["start_retry", "max_retry"]) ∧
      (s.Runs registry "biexponential_decrease" →
        s.KeepsButStart registry (· ≥ ·) "stop_retry" ["start_retry", "stop_retry"]) ∧
      (s.Runs registry "random" → s.Keeps registry (· ≤ ·) "max_retry") :=
  ⟨Runs.keepsButStart_linear, Runs.keepsButStart_doubling, Runs.keepsButStart_halving, Runs.keeps_random⟩

/-- A flow that declares no strategy is looked at again within two minutes. -/
theorem numbers_keep_bound_but_start_standard :
    Sampling.ofDecl .builtin none = .ok .standard ∧ ∀ n, Sampling.standard.CanAnswer .builtin n → n ≤ 120 := by
  have hruns : Sampling.standard.Runs .builtin "biexponential_increase" := rfl
  obtain ⟨-, hdoubling, -, -⟩ := numbers_keep_bound_but_start .builtin .standard
  have hkeeps : Sampling.standard.Keeps .builtin (· ≤ ·) "max_retry" :=
    (hdoubling hruns).all_iff.2 fun _ => ⟨2, 120, rfl, rfl, by decide⟩
  refine ⟨rfl, fun n hn => ?_⟩
  obtain ⟨bound, hbound, hle⟩ := hkeeps n hn
  cases hbound
  exact hle

/-- A halved interval that starts with one second is answered though it is to end at five. -/
theorem halving_starts_below_bound :
    let decl : SamplingDecl := {
      name := "biexponential_decrease"
      args := [("start_retry", .int 1), ("stop_retry", .int 5)] }
    ∃ s, Sampling.ofDecl .builtin (some decl) = .ok s ∧ s.answer .builtin [] { activeNodes := 1 } = .ok (some 1) ∧
      ¬s.Keeps .builtin (· ≥ ·) "stop_retry" := by
  intro decl
  have hanswer : Sampling.answer .builtin ⟨⟨Strategies.moduleName, "biexponential_decrease"⟩,
      Dict.ofList [("start_retry", .ofNat 1), ("stop_retry", .ofNat 5)]⟩ [] { activeNodes := 1 } = .ok (some 1) := rfl
  refine ⟨_, rfl, hanswer, fun hkeeps => ?_⟩
  obtain ⟨bound, hbound, hle⟩ := hkeeps 1 ⟨[], { activeNodes := 1 }, hanswer⟩
  cases hbound
  exact absurd hle (by decide)

end Sampling

end TaskFlow
