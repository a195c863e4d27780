import TaskFlow.Cache.Spec
import TaskFlow.Cache.Usage

/-!
# Bounded caches

- `RandomCache`: a cache that gives up an entry of the caller's choice;
- `Cache`: a cache of any policy. Room is made before a key goes in, a key that is there keeps its value, and a cache
  without capacity stays empty;
- `CacheModel`: what the caches in order of insertion or use amount to, a list of entries.
-/

namespace TaskFlow

variable {κ ν : Type} [DecidableEq κ]

/-! ## Random replacement -/

structure RandomCache (κ ν : Type) where
  capacity : Nat
  items : List (κ × ν) := []

namespace RandomCache

def get? (c : RandomCache κ ν) (k : κ) : Option ν := c.items.lookup k

def contains (c : RandomCache κ ν) (k : κ) : Bool := (c.get? k).isSome

def size (c : RandomCache κ ν) : Nat := c.items.length

/-- Entries given up until one more fits or none is left, at most `n` of them. The choice numbers the entry to go,
counted round as often as need be. -/
def shrink (choose : List (κ × ν) → Nat) : Nat → RandomCache κ ν → RandomCache κ ν
  | 0, c => c
  | n + 1, c =>
    if c.items.length + 1 ≤ c.capacity then c
    else shrink choose n { c with items := c.items.eraseIdx (choose c.items % c.items.length) }

def add (choose : List (κ × ν) → Nat) (c : RandomCache κ ν) (k : κ) (v : ν) : RandomCache κ ν :=
  if c.contains k then c
  else
    let c := c.shrink choose c.items.length
    if c.capacity = 0 then c else { c with items := (k, v) :: c.items }

end RandomCache

/-! ## Caches of any policy -/

inductive Cache (κ ν : Type) where
  | queue (victim : Victim) (c : QueueCache κ ν)
  | usage (victim : Victim) (c : UsageCache κ ν)
  | random (c : RandomCache κ ν)

namespace Cache

/-- The empty cache of a policy and a size. -/
def ofSpec (spec : CacheSpec) : Cache κ ν :=
  match spec.policy with
  | .fifo => .queue .oldest { capacity := spec.maxSize }
  | .lifo => .queue .newest { capacity := spec.maxSize }
  | .lru => .usage .oldest { capacity := spec.maxSize }
  | .mru => .usage .newest { capacity := spec.maxSize }
  | .rr => .random { capacity := spec.maxSize }

def capacity : Cache κ ν → Nat
  | queue _ c => c.capacity
  | usage _ c => c.capacity
  | random c => c.capacity

def size : Cache κ ν → Nat
  | queue _ c => c.size
  | usage _ c => c.size
  | random c => c.size

def contains : Cache κ ν → κ → Bool
  | queue _ c, k => c.contains k
  | usage _ c, k => c.contains k
  | random c, k => c.contains k

/-- The value of a key, and the cache after the look-up. -/
def get : Cache κ ν → κ → Option ν × Cache κ ν
  | queue victim c, k => (c.get? k, queue victim c)
  | usage victim c, k =>
    let (v, c) := c.get k
    (v, usage victim c)
  | random c, k => (c.get? k, random c)

def add (choose : List (κ × ν) → Nat) : Cache κ ν → κ → ν → Cache κ ν
  | queue victim c, k, v => queue victim (c.add victim k v)
  | usage victim c, k, v => usage victim (c.add victim k v)
  | random c, k, v => random (c.add choose k v)

end Cache

/-! ## The list of entries -/

/-- The entries of a cache, the next one to go at the end that `victim` names. -/
structure CacheModel (κ ν : Type) where
  capacity : Nat
  victim : Victim
  /-- Whether a look-up that hits moves the entry to the newest end. -/
  refreshes : Bool
  entries : List (κ × ν) := []

namespace CacheModel

/-- The entries that stay when one more is to fit. -/
def room (m : CacheModel κ ν) : List (κ × ν) :=
  match m.victim with
  | .oldest => m.entries.drop (m.entries.length + 1 - m.capacity)
  | .newest => m.entries.take (m.capacity - 1)

def add (m : CacheModel κ ν) (k : κ) (v : ν) : CacheModel κ ν :=
  if (m.entries.lookup k).isSome then m
  else { m with entries := if m.capacity = 0 then m.room else m.room ++ [(k, v)] }

def get (m : CacheModel κ ν) (k : κ) : Option ν × CacheModel κ ν :=
  match m.entries.lookup k with
  | none => (none, m)
  | some v => (some v, if m.refreshes then { m with entries := eraseKey k m.entries ++ [(k, v)] } else m)

end CacheModel

end TaskFlow
