/-!
# Caches in order of insertion

- `Victim`: the end of an order that a full cache gives up;
- `QueueCache`: the keys in order of insertion beside the values by key. A look-up changes nothing.
-/

namespace TaskFlow

/-- The end of an order that a full cache gives up: the oldest or the newest entry. -/
inductive Victim where
  | oldest
  | newest
deriving DecidableEq

variable {κ ν : Type} [DecidableEq κ]

/-- An association list without a key. -/
def eraseKey (k : κ) (items : List (κ × ν)) : List (κ × ν) := items.filter fun e => e.1 ≠ k

/-- The key at an end of an order, and the other keys. -/
def Victim.pop? (victim : Victim) (order : List κ) : Option (κ × List κ) :=
  match victim, order with
  | _, [] => none
  | .oldest, k :: ks => some (k, ks)
  | .newest, k :: ks => some ((k :: ks).getLast (by simp), (k :: ks).dropLast)

/-- Keys in order of insertion, the oldest first, and the values by key. -/
structure QueueCache (κ ν : Type) where
  capacity : Nat
  order : List κ := []
  items : List (κ × ν) := []

namespace QueueCache

def get? (c : QueueCache κ ν) (k : κ) : Option ν := c.items.lookup k

def contains (c : QueueCache κ ν) (k : κ) : Bool := (c.get? k).isSome

def size (c : QueueCache κ ν) : Nat := c.items.length

/-- Entries given up until one more fits or none is left, at most `n` of them. -/
def shrink (victim : Victim) : Nat → QueueCache κ ν → QueueCache κ ν
  | 0, c => c
  | n + 1, c =>
    if c.order.length + 1 ≤ c.capacity then c
    else match victim.pop? c.order with
      | none => c
      | some (k, order) => shrink victim n { c with order := order, items := eraseKey k c.items }

def makeRoom (victim : Victim) (c : QueueCache κ ν) : QueueCache κ ν := shrink victim c.order.length c

/-- A new key goes in last, after room is made; a key that is there keeps its value. -/
def add (victim : Victim) (c : QueueCache κ ν) (k : κ) (v : ν) : QueueCache κ ν :=
  if c.contains k then c
  else
    let c := c.makeRoom victim
    if c.capacity = 0 then c else { c with order := c.order ++ [k], items := (k, v) :: c.items }

end QueueCache

end TaskFlow
