import TaskFlow.Cache.Queue

/-!
# Caches in order of use

- `UsageList`: records in numbered slots, linked from the least to the most recently used one, with the slot of each
  key and the free slots;
- `touch` moves a record to the end of the most recently used, `remove` frees its slot and `push` takes a free one;
- `UsageCache`: a usage list of bounded size. A look-up that hits counts as a use.
-/

namespace TaskFlow

variable {κ ν : Type}

/-- A record with its neighbours: `prev` is used less recently, `next` more recently. -/
structure UsageRecord (κ ν : Type) where
  key : κ
  value : ν
  prev : Option Nat
  next : Option Nat

/-- Records in slots; `head` is the least and `tail` the most recently used one. -/
structure UsageList (κ ν : Type) where
  slots : Array (Option (UsageRecord κ ν)) := #[]
  free : List Nat := []
  index : List (κ × Nat) := []
  head : Option Nat := none
  tail : Option Nat := none

namespace UsageList

/-- The record in an occupied slot. -/
def record? (l : UsageList κ ν) (slot : Nat) : Option (UsageRecord κ ν) := l.slots[slot]?.join

def modify (l : UsageList κ ν) (slot : Nat) (f : UsageRecord κ ν → UsageRecord κ ν) : UsageList κ ν :=
  { l with slots := l.slots.modify slot fun r => r.map f }

/-- The link behind a slot, or the head where there is none. -/
def setNext (l : UsageList κ ν) (slot next : Option Nat) : UsageList κ ν :=
  match slot with
  | some slot => l.modify slot fun r => { r with next := next }
  | none => { l with head := next }

/-- The link in front of a slot, or the tail where there is none. -/
def setPrev (l : UsageList κ ν) (slot prev : Option Nat) : UsageList κ ν :=
  match slot with
  | some slot => l.modify slot fun r => { r with prev := prev }
  | none => { l with tail := prev }

/-- The record of a slot taken out of the chain. -/
def unlink (l : UsageList κ ν) (slot : Nat) : UsageList κ ν :=
  match l.record? slot with
  | none => l
  | some r =>
    let l := l.modify slot fun r => { r with prev := none, next := none }
    (l.setNext r.prev r.next).setPrev r.next r.prev

/-- The record of a slot put at the end of the chain. -/
def linkLast (l : UsageList κ ν) (slot : Nat) : UsageList κ ν :=
  let last := l.tail
  let l := l.modify slot fun r => { r with prev := last, next := none }
  { l.setNext last (some slot) with tail := some slot }

variable [DecidableEq κ]

def size (l : UsageList κ ν) : Nat := l.index.length

def contains (l : UsageList κ ν) (k : κ) : Bool := (l.index.lookup k).isSome

/-- A key looked up and made the most recently used one. -/
def touch (l : UsageList κ ν) (k : κ) : Option ν × UsageList κ ν :=
  match l.index.lookup k with
  | none => (none, l)
  | some slot =>
    let l := (l.unlink slot).linkLast slot
    ((l.record? slot).map (·.value), l)

/-- The record of a slot removed and the slot freed. -/
def remove (l : UsageList κ ν) (slot : Nat) : UsageList κ ν :=
  match l.record? slot with
  | none => l
  | some r =>
    let l := l.unlink slot
    { l with
      slots := l.slots.setIfInBounds slot none
      free := slot :: l.free
      index := eraseKey r.key l.index }

/-- A record for a new slot: the last one freed, or one behind all others. -/
def occupy (l : UsageList κ ν) (r : UsageRecord κ ν) : Nat × UsageList κ ν :=
  match l.free with
  | slot :: free => (slot, { l with slots := l.slots.setIfInBounds slot (some r), free := free })
  | [] => (l.slots.size, { l with slots := l.slots.push (some r) })

/-- A new key as the most recently used one. -/
def push (l : UsageList κ ν) (k : κ) (v : ν) : UsageList κ ν :=
  let (slot, l) := l.occupy ⟨k, v, none, none⟩
  { l.linkLast slot with index := (k, slot) :: l.index }

/-- The end of the chain that a full cache gives up. -/
def victimSlot (l : UsageList κ ν) : Victim → Option Nat
  | .oldest => l.head
  | .newest => l.tail

/-- Records given up until one more fits or none is left, at most `n` of them. -/
def shrink (victim : Victim) (capacity : Nat) : Nat → UsageList κ ν → UsageList κ ν
  | 0, l => l
  | n + 1, l =>
    if l.size + 1 ≤ capacity then l
    else match l.victimSlot victim with
      | none => l
      | some slot => shrink victim capacity n (l.remove slot)

end UsageList

/-- A usage list with room for `capacity` records. -/
structure UsageCache (κ ν : Type) where
  capacity : Nat
  list : UsageList κ ν := {}

namespace UsageCache

variable [DecidableEq κ]

def size (c : UsageCache κ ν) : Nat := c.list.size

def contains (c : UsageCache κ ν) (k : κ) : Bool := c.list.contains k

def get (c : UsageCache κ ν) (k : κ) : Option ν × UsageCache κ ν :=
  let (v, list) := c.list.touch k
  (v, { c with list := list })

/-- A new key goes in last, after room is made; a key that is there keeps its value and its place. -/
def add (victim : Victim) (c : UsageCache κ ν) (k : κ) (v : ν) : UsageCache κ ν :=
  if c.contains k then c
  else
    let list := c.list.shrink victim c.capacity c.list.size
    if c.capacity = 0 then { c with list := list } else { c with list := list.push k v }

end UsageCache

end TaskFlow
