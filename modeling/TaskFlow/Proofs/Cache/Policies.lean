import TaskFlow.Proofs.Cache.Queue
import TaskFlow.Proofs.Cache.Usage

/-!
# Caches of every ordered policy behave as lists of entries

- `CachePolicy.ordered`: the four policies that give up an end of an order, that of insertion or that of use;
- `Cache.Follows`: a cache stores what a list of entries has; `Follows.step`: so it does after any operation;
- `Cache.ofSpec_behaves_as_list`: after any operations a cache answers as the list does.
-/

namespace TaskFlow

variable {κ ν : Type}

/-- The policy that gives up an end of the order of insertion, or of the order of use if a look-up counts as one. -/
def CachePolicy.ordered : Victim → Bool → CachePolicy
  | .oldest, false => .fifo
  | .newest, false => .lifo
  | .oldest, true => .lru
  | .newest, true => .mru

namespace Cache

/-- A cache that stores the entries of a list, by the same policy. -/
inductive Follows : Cache κ ν → CacheModel κ ν → Prop where
  | queue {c : QueueCache κ ν} {m : CacheModel κ ν} (h : c.Holds m) (hrefreshes : m.refreshes = false) :
      Follows (.queue m.victim c) m
  | usage {c : UsageCache κ ν} {m : CacheModel κ ν} (h : c.Holds m) (hrefreshes : m.refreshes = true) :
      Follows (.usage m.victim c) m

variable {c : Cache κ ν} {m : CacheModel κ ν}

/-- A new cache has the entries of the empty list. -/
theorem follows_ofSpec (capacity : Nat) (victim : Victim) (refreshes : Bool) :
    (ofSpec ⟨.ordered victim refreshes, capacity⟩ : Cache κ ν).Follows
      { capacity := capacity, victim := victim, refreshes := refreshes } := by
  have hqueue : ∀ victim, ({ capacity := capacity } : QueueCache κ ν).Holds
      { capacity := capacity, victim := victim, refreshes := false } :=
    fun _ => ⟨rfl, rfl, List.Perm.nil, List.nodup_nil⟩
  have husage : ∀ victim, ({ capacity := capacity } : UsageCache κ ν).Holds
      { capacity := capacity, victim := victim, refreshes := true } :=
    fun _ => ⟨rfl, [], UsageList.holds_empty, rfl⟩
  cases refreshes with
  | false => cases victim with
    | oldest => exact .queue (hqueue .oldest) rfl
    | newest => exact .queue (hqueue .newest) rfl
  | true => cases victim with
    | oldest => exact .usage (husage .oldest) rfl
    | newest => exact .usage (husage .newest) rfl

namespace Follows

theorem nodup (h : c.Follows m) : (m.entries.map Prod.fst).Nodup := by
  cases h with
  | queue h _ => exact h.nodup
  | usage h _ =>
    obtain ⟨cells, hcells, he⟩ := h.exists_cells
    exact he ▸ hcells.keys_nodup

variable [DecidableEq κ]

theorem size_eq (h : c.Follows m) : c.size = m.entries.length := by
  cases h with
  | queue h _ => exact h.size_eq
  | usage h _ => exact h.size_eq

theorem contains_eq (h : c.Follows m) (k : κ) : c.contains k = (m.entries.lookup k).isSome := by
  cases h with
  | queue h _ => exact congrArg Option.isSome (h.get?_eq k)
  | usage h _ => exact h.contains_eq k

/-- A look-up answers as in the list, and leaves what the list leaves. -/
theorem get (h : c.Follows m) (k : κ) : (c.get k).1 = (m.get k).1 ∧ (c.get k).2.Follows (m.get k).2 := by
  cases h with
  | queue h hrefreshes =>
    have hmodel : m.get k = (m.entries.lookup k, m) := by
      unfold CacheModel.get
      cases m.entries.lookup k <;> simp [hrefreshes]
    rw [hmodel]
    exact ⟨h.get?_eq k, .queue h hrefreshes⟩
  | usage h hrefreshes =>
    obtain ⟨hvalue, hholds⟩ := h.get hrefreshes k
    have hsame : (m.get k).2.victim = m.victim ∧ (m.get k).2.refreshes = m.refreshes := by
      unfold CacheModel.get
      cases m.entries.lookup k <;> simp [hrefreshes]
    refine ⟨hvalue, ?_⟩
    have hfollows := Follows.usage hholds (hsame.2.trans hrefreshes)
    rw [hsame.1] at hfollows
    exact hfollows

theorem add (h : c.Follows m) (choose : List (κ × ν) → Nat) (k : κ) (v : ν) :
    (c.add choose k v).Follows (m.add k v) := by
  have hsame : (m.add k v).victim = m.victim ∧ (m.add k v).refreshes = m.refreshes := by
    unfold CacheModel.add
    split <;> simp
  cases h with
  | queue h hrefreshes =>
    have hfollows := Follows.queue (h.add k v) (hsame.2.trans hrefreshes)
    rw [hsame.1] at hfollows
    exact hfollows
  | usage h hrefreshes =>
    have hfollows := Follows.usage (h.add k v) (hsame.2.trans hrefreshes)
    rw [hsame.1] at hfollows
    exact hfollows

/-- One operation on both sides. -/
theorem step (h : c.Follows m) (choose : List (κ × ν) → Nat) (op : CacheOp κ ν) :
    (c.step choose op).Follows (m.step op) := by
  cases op with
  | add k v => exact h.add choose k v
  | get k => exact (h.get k).2

/-- Any operations on both sides. -/
theorem foldl (h : c.Follows m) (choose : List (κ × ν) → Nat) (ops : List (CacheOp κ ν)) :
    (ops.foldl (Cache.step choose) c).Follows (ops.foldl CacheModel.step m) := by
  induction ops generalizing c m with
  | nil => exact h
  | cons op ops ih => exact ih (h.step choose op)

end Follows

variable [DecidableEq κ]

/-- **Caches behave as lists of entries**: after any operations a cache of an ordered policy has as many entries as the
list, contains the same keys and finds the same values, whatever is looked up next. No key is in the list twice. -/
theorem ofSpec_behaves_as_list (capacity : Nat) (victim : Victim) (refreshes : Bool) (choose : List (κ × ν) → Nat)
    (ops : List (CacheOp κ ν)) :
    let c : Cache κ ν := ops.foldl (Cache.step choose) (ofSpec ⟨.ordered victim refreshes, capacity⟩)
    let m : CacheModel κ ν :=
      ops.foldl CacheModel.step { capacity := capacity, victim := victim, refreshes := refreshes }
    (m.entries.map Prod.fst).Nodup ∧ c.size = m.entries.length ∧
      (∀ k, c.contains k = (m.entries.lookup k).isSome) ∧ ∀ k, (c.get k).1 = (m.get k).1 := by
  intro c m
  have hfollows : c.Follows m := (follows_ofSpec capacity victim refreshes).foldl choose ops
  exact ⟨hfollows.nodup, hfollows.size_eq, hfollows.contains_eq, fun k => (hfollows.get k).1⟩

/-- A key looked up stays, and the least recently used one goes. -/
example :
    let c : Cache String Nat := [CacheOp.add "a" 1, .add "b" 2, .get "a", .add "c" 3].foldl (Cache.step fun _ => 0)
      (ofSpec ⟨.lru, 2⟩)
    (c.get "a").1 = some 1 ∧ (c.get "b").1 = none ∧ c.size = 2 := by decide

end Cache

end TaskFlow
