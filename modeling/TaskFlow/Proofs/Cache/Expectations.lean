import TaskFlow.Proofs.Cache.Policies
import TaskFlow.Proofs.Cache.Slots

/-!
# Caches in order of use keep their lists intact

- `UsageList.unlink?`, `UsageList.push?` and the like: the operations on a list with what they expect of it, that a slot
  with a link to it is occupied and a free one exists; without a result where this is not so;
- `Packed.unlink?_eq`, `Packed.push?_eq` and the like: on a list without lost slots they give what the operations
  without expectations give;
- `UsageCache.Sound`: the invariant of a cache, with no more slots than its capacity; `Sound.step`: one operation keeps
  it, and every expectation on the way is met;
- `Cache.usage_lists_stay_intact`: so after any operations.
-/

namespace TaskFlow

variable {κ ν : Type}

/-! ## Operations with expectations -/

namespace UsageList

/-- A change of the record in a slot that is expected to be occupied. -/
def update? (l : UsageList κ ν) (slot : Nat) (f : UsageRecord κ ν → UsageRecord κ ν) : Option (UsageList κ ν) :=
  if l.occupied slot then some (l.modify slot f) else none

def setNext? (l : UsageList κ ν) (slot next : Option Nat) : Option (UsageList κ ν) :=
  match slot with
  | some slot => l.update? slot fun r => { r with next := next }
  | none => some { l with head := next }

def setPrev? (l : UsageList κ ν) (slot prev : Option Nat) : Option (UsageList κ ν) :=
  match slot with
  | some slot => l.update? slot fun r => { r with prev := prev }
  | none => some { l with tail := prev }

def unlink? (l : UsageList κ ν) (slot : Nat) : Option (UsageList κ ν) := do
  let r ← l.record? slot
  let cleared := l.modify slot fun r => { r with prev := none, next := none }
  let joined ← cleared.setNext? r.prev r.next
  joined.setPrev? r.next r.prev

def linkLast? (l : UsageList κ ν) (slot : Nat) : Option (UsageList κ ν) := do
  let placed ← l.update? slot fun r => { r with prev := l.tail, next := none }
  let joined ← placed.setNext? l.tail (some slot)
  return { joined with tail := some slot }

/-- A record in the slot that was freed last, which is expected to exist, or in a new one. -/
def occupy? (l : UsageList κ ν) (r : UsageRecord κ ν) : Option (Nat × UsageList κ ν) :=
  match l.free with
  | slot :: free =>
    if slot < l.slots.size then some (slot, { l with slots := l.slots.setIfInBounds slot (some r), free := free })
    else none
  | [] => some (l.slots.size, { l with slots := l.slots.push (some r) })

/-- A new key behind the tail, and as the head where there was none. -/
def push? (l : UsageList κ ν) (k : κ) (v : ν) : Option (UsageList κ ν) := do
  let (slot, placed) ← l.occupy? ⟨k, v, l.tail, none⟩
  let joined ← match l.tail with
    | some tail => placed.update? tail fun r => { r with next := some slot }
    | none => some placed
  return { joined with tail := some slot, head := joined.head.or (some slot), index := (k, slot) :: joined.index }

variable [DecidableEq κ]

def touch? (l : UsageList κ ν) (k : κ) : Option (Option ν × UsageList κ ν) :=
  match l.index.lookup k with
  | none => some (none, l)
  | some slot => do
    let unlinked ← l.unlink? slot
    let linked ← unlinked.linkLast? slot
    return ((linked.record? slot).map (·.value), linked)

def remove? (l : UsageList κ ν) (slot : Nat) : Option (UsageList κ ν) := do
  let unlinked ← l.unlink? slot
  let r ← unlinked.record? slot
  return { unlinked with
    slots := unlinked.slots.setIfInBounds slot none
    free := slot :: unlinked.free
    index := eraseKey r.key unlinked.index }

/-- Records given up while there are any and one more does not fit. Within `n` of them this is expected to end, and each
time there is one to give up. -/
def shrink? (victim : Victim) (capacity : Nat) : Nat → UsageList κ ν → Option (UsageList κ ν)
  | 0, l => if l.size = 0 ∨ l.size + 1 ≤ capacity then some l else none
  | n + 1, l =>
    if l.size = 0 ∨ l.size + 1 ≤ capacity then some l
    else do
      let slot ← l.victimSlot victim
      let l ← l.remove? slot
      shrink? victim capacity n l

end UsageList

namespace UsageCache

variable [DecidableEq κ]

def get? (c : UsageCache κ ν) (k : κ) : Option (Option ν × UsageCache κ ν) := do
  let (v, list) ← c.list.touch? k
  return (v, { c with list := list })

def add? (victim : Victim) (c : UsageCache κ ν) (k : κ) (v : ν) : Option (UsageCache κ ν) :=
  if c.contains k then some c
  else do
    let list ← c.list.shrink? victim c.capacity c.list.size
    if c.capacity = 0 then return { c with list := list }
    else
      let list ← list.push? k v
      return { c with list := list }

/-- An operation with its expectations. -/
def step? (victim : Victim) (c : UsageCache κ ν) : CacheOp κ ν → Option (UsageCache κ ν)
  | .add k v => c.add? victim k v
  | .get k => (c.get? k).map Prod.snd

/-- The operation without them. -/
def step (victim : Victim) (c : UsageCache κ ν) : CacheOp κ ν → UsageCache κ ν
  | .add k v => c.add victim k v
  | .get k => (c.get k).2

end UsageCache

/-! ## Expectations that are met -/

namespace UsageList

variable {l : UsageList κ ν} {s : Nat} {k : κ} {v : ν} {cells as bs : List (Nat × κ × ν)} {slot link : Option Nat}

theorem update?_eq (h : l.occupied s = true) (f : UsageRecord κ ν → UsageRecord κ ν) :
    l.update? s f = some (l.modify s f) := if_pos h

theorem setNext?_eq (h : ∀ t, slot = some t → l.occupied t = true) :
    l.setNext? slot link = some (l.setNext slot link) := by
  cases slot with
  | none => rfl
  | some t => exact update?_eq (h t rfl) _

theorem setPrev?_eq (h : ∀ t, slot = some t → l.occupied t = true) :
    l.setPrev? slot link = some (l.setPrev slot link) := by
  cases slot with
  | none => rfl
  | some t => exact update?_eq (h t rfl) _

namespace Chain

theorem occupied (h : l.Chain cells) (hs : s ∈ cells.map Prod.fst) : l.occupied s = true := by
  obtain ⟨_, hr⟩ := h.exists_record? hs
  exact occupied_of_record? hr

/-- The neighbours of a record are occupied. -/
theorem unlink?_eq (h : l.Chain (as ++ (s, k, v) :: bs)) : l.unlink? s = some (l.unlink s) := by
  have hfront : ∀ t, lastSlot as = some t → l.occupied t = true := fun t ht =>
    h.occupied (by simp [mem_of_lastSlot ht])
  have hbehind : ∀ t, firstSlot bs = some t → l.occupied t = true := fun t ht =>
    h.occupied (by simp [mem_of_firstSlot ht])
  rw [unlink?, UsageList.unlink, h.record?_eq]
  simp only [Option.bind_eq_bind, Option.bind_some]
  rw [setNext?_eq fun t ht => by simpa using hfront t ht, Option.bind_some,
    setPrev?_eq fun t ht => by simpa using hbehind t ht]

/-- The tail is occupied. -/
theorem linkLast?_eq (h : l.Chain cells) (hs : l.occupied s = true) : l.linkLast? s = some (l.linkLast s) := by
  have htail : ∀ t, l.tail = some t → l.occupied t = true := fun t ht =>
    h.occupied (mem_of_lastSlot (h.tail_eq ▸ ht))
  rw [linkLast?, update?_eq hs]
  simp only [Option.bind_eq_bind, Option.bind_some]
  rw [setNext?_eq fun t ht => by simpa using htail t ht]
  rfl

end Chain

/-- A record changed once it has its slot is the changed record put there. -/
theorem modify_occupy (h : ∀ t ∈ l.free, t < l.slots.size) (r : UsageRecord κ ν)
    (f : UsageRecord κ ν → UsageRecord κ ν) :
    (l.occupy r).2.modify (l.occupy r).1 f = (l.occupy (f r)).2 := by
  cases hfree : l.free with
  | nil =>
    have hslots : (l.slots.push (some r)).modify l.slots.size (fun r => r.map f) = l.slots.push (some (f r)) := by
      refine Array.ext_getElem? fun t => ?_
      by_cases ht : t = l.slots.size
      · simp only [ht, Array.getElem?_modify, Array.getElem?_push, if_true, Option.map_some]
      · simp [Array.getElem?_modify, Array.getElem?_push, ht, Ne.symm ht]
    simp only [occupy_of_nil hfree, modify, hslots]
  | cons slot free =>
    have hlt : slot < l.slots.size := h slot (by simp [hfree])
    have hslots : (l.slots.setIfInBounds slot (some r)).modify slot (fun r => r.map f) =
        l.slots.setIfInBounds slot (some (f r)) := by
      refine Array.ext_getElem? fun t => ?_
      by_cases ht : slot = t <;> simp [Array.getElem?_modify, Array.getElem?_setIfInBounds, ht]
    simp only [occupy_of_cons hfree, modify, hslots]

theorem occupy?_eq (h : ∀ t ∈ l.free, t < l.slots.size) (r : UsageRecord κ ν) : l.occupy? r = some (l.occupy r) := by
  unfold occupy? occupy
  cases hfree : l.free with
  | nil => rfl
  | cons slot free => exact if_pos (h slot (by simp [hfree]))

/-- Which slot is taken does not depend on the record, and nothing but slots changes. -/
theorem occupy_rest (r r' : UsageRecord κ ν) :
    (l.occupy r).1 = (l.occupy r').1 ∧ (l.occupy r).2.head = l.head ∧ (l.occupy r).2.tail = l.tail ∧
      (l.occupy r).2.index = l.index := by
  unfold occupy
  cases l.free <;> exact ⟨rfl, rfl, rfl, rfl⟩

namespace Packed

/-- The tail is occupied, and there is one just if there is a head. -/
theorem push?_eq (h : l.Packed cells) (k : κ) (v : ν) : l.push? k v = some (l.push k v) := by
  -- with expectations the record gets its link before it has its slot
  let unlinked : UsageRecord κ ν := ⟨k, v, none, none⟩
  let linked : UsageRecord κ ν := ⟨k, v, l.tail, none⟩
  obtain ⟨hslot, -, htail, hindex⟩ := l.occupy_rest unlinked linked
  obtain ⟨-, hhead', -, hindex'⟩ := l.occupy_rest linked linked
  have hoccupied := (h.occupy linked).1
  have hplaced : (l.occupy unlinked).2.modify (l.occupy unlinked).1 (fun r => { r with prev := l.tail, next := none }) =
      (l.occupy linked).2 := modify_occupy h.lt_size_of_free unlinked _
  have hpush : l.push k v =
      { (l.occupy unlinked).2.linkLast (l.occupy unlinked).1 with
        index := (k, (l.occupy unlinked).1) :: (l.occupy unlinked).2.index } := rfl
  rw [hpush, linkLast, htail, hindex, hplaced, hslot, push?, occupy?_eq h.lt_size_of_free]
  simp only [Option.bind_eq_bind, Option.bind_some]
  generalize (l.occupy linked).1 = slot at *
  generalize (l.occupy linked).2 = placed at *
  cases hlast : l.tail with
  | none =>
    have hhead : l.head = none := by
      have hnil : cells = [] := lastSlot_eq_none_iff.1 (h.chain.tail_eq ▸ hlast)
      rw [h.chain.head_eq, hnil, firstSlot_nil]
    simp [setNext, hhead', hindex', hhead]
  | some tail =>
    have hmem : tail ∈ cells.map Prod.fst := mem_of_lastSlot (h.chain.tail_eq ▸ hlast)
    obtain ⟨head, hhead⟩ : ∃ head, l.head = some head := by
      rw [← Option.ne_none_iff_exists', h.chain.head_eq, ne_eq, firstSlot_eq_none_iff]
      rintro rfl
      cases hmem
    have htail' : placed.occupied tail = true := (hoccupied tail).2 (Or.inr (h.occupied_iff.2 hmem))
    simp [update?_eq htail', setNext, modify, hhead', hindex', hhead]

variable [DecidableEq κ]

theorem touch?_eq (h : l.Packed cells) (k : κ) : l.touch? k = some (l.touch k) := by
  unfold touch? UsageList.touch
  cases hk : l.index.lookup k with
  | none => rfl
  | some s =>
    obtain ⟨as, v, bs, rfl⟩ := h.exists_split hk
    have hs : (l.unlink s).occupied s = true := by
      rw [occupied_unlink]
      exact occupied_of_record? h.chain.record?_eq
    simp only [h.chain.unlink?_eq, h.chain.unlink.1.linkLast?_eq hs, Option.bind_eq_bind, Option.bind_some]
    rfl

theorem remove?_eq (h : l.Packed (as ++ (s, k, v) :: bs)) : l.remove? s = some (l.remove s) := by
  rw [remove?, h.chain.unlink?_eq, UsageList.remove, h.chain.record?_eq]
  simp only [h.chain.unlink.2, Option.bind_eq_bind, Option.bind_some]
  rfl

/-- **Making room ends**, with every expectation met: records are given up until none is left or one more fits. By
induction on the number of records that may go. -/
theorem shrink (victim : Victim) (capacity : Nat) : ∀ {n : Nat} {l : UsageList κ ν} {cells : List (Nat × κ × ν)},
    l.Packed cells → cells.length ≤ n →
    ∃ rest, l.shrink? victim capacity n = some (l.shrink victim capacity n) ∧
      (l.shrink victim capacity n).Packed rest ∧ (rest = [] ∨ rest.length + 1 ≤ capacity) ∧ rest ⊆ cells ∧
      (l.shrink victim capacity n).slots.size = l.slots.size
  | 0, l, cells, h, hn => by
    have hnil : cells = [] := List.eq_nil_of_length_eq_zero (Nat.le_zero.1 hn)
    subst hnil
    have hsize : l.size = 0 := by simpa [entriesOf] using h.size_eq
    exact ⟨[], if_pos (Or.inl hsize), h, Or.inl rfl, List.Subset.refl _, rfl⟩
  | n + 1, l, cells, h, hn => by
    have hsize : l.size = cells.length := by simpa [entriesOf] using h.size_eq
    rw [UsageList.shrink, shrink?, hsize]
    by_cases hfits : cells.length + 1 ≤ capacity
    · rw [if_pos hfits, if_pos (Or.inr hfits)]
      exact ⟨cells, rfl, h, Or.inr hfits, List.Subset.refl _, rfl⟩
    · rw [if_neg hfits]
      rcases victim.eq_nil_or_join cells with rfl | ⟨⟨s, k, v⟩, rest, rfl⟩
      · have hslot : l.victimSlot victim = none := by
          cases victim with
          | oldest => exact h.chain.head_eq
          | newest => exact h.chain.tail_eq
        rw [hslot, if_pos (Or.inl List.length_nil)]
        exact ⟨[], rfl, h, Or.inl rfl, List.Subset.refl _, rfl⟩
      · have hlength := victim.length_join (s, k, v) rest
        have hslot : l.victimSlot victim = some s := Holds.victimSlot_eq victim h.toHolds
        rw [if_neg (by omega), hslot]
        obtain ⟨as, bs, hjoin, rfl⟩ := victim.join_split (s, k, v) rest
        rw [hjoin] at h
        obtain ⟨rest, hshrink, hpacked, hroom, hsub, hslots⟩ := shrink victim capacity (n := n) h.remove (by omega)
        refine ⟨rest, ?_, hpacked, hroom, fun c hc => ?_, hslots.trans ?_⟩
        · simp only [Option.bind_eq_bind, Option.bind_some, h.remove?_eq, hshrink]
        · have hmem := hsub hc
          rw [List.mem_append] at hmem
          rw [hjoin, List.mem_append, List.mem_cons]
          exact hmem.imp_right Or.inr
        · exact h.size_slots_remove

end Packed

end UsageList

/-! ## Caches -/

namespace UsageCache

open UsageList

variable {c : UsageCache κ ν} {capacity : Nat}

/-- No slot is lost, and there are no more of them than records may be stored. -/
structure Sound (c : UsageCache κ ν) (capacity : Nat) : Prop where
  capacity_eq : c.capacity = capacity
  packed : ∃ cells, c.list.Packed cells
  size_slots_le : c.list.slots.size ≤ capacity

theorem sound_empty (capacity : Nat) : ({ capacity := capacity } : UsageCache κ ν).Sound capacity where
  capacity_eq := rfl
  packed := ⟨[], packed_empty⟩
  size_slots_le := Nat.zero_le _

namespace Sound

variable [DecidableEq κ]

theorem get (h : c.Sound capacity) (k : κ) : c.get? k = some (c.get k) ∧ (c.get k).2.Sound capacity := by
  obtain ⟨cells, hcells⟩ := h.packed
  have hlist : (c.get k).2.list = (c.list.touch k).2 := rfl
  have hget : c.get? k = some (c.get k) := by
    rw [get?, hcells.touch?_eq]
    rfl
  have hkept : (∃ cells, (c.list.touch k).2.Packed cells) ∧ (c.list.touch k).2.slots.size = c.list.slots.size := by
    cases hk : c.list.index.lookup k with
    | none =>
      have htouch : (c.list.touch k).2 = c.list := by rw [touch, hk]
      rw [htouch]
      exact ⟨⟨cells, hcells⟩, rfl⟩
    | some s =>
      obtain ⟨as, v, bs, rfl⟩ := hcells.exists_split hk
      refine ⟨⟨_, hcells.touch⟩, ?_⟩
      rw [touch, hk]
      simp
  rw [← hlist] at hkept
  exact ⟨hget, h.capacity_eq, hkept.1, hkept.2 ▸ h.size_slots_le⟩

theorem add (h : c.Sound capacity) (victim : Victim) (k : κ) (v : ν) :
    c.add? victim k v = some (c.add victim k v) ∧ (c.add victim k v).Sound capacity := by
  obtain ⟨rfl, ⟨cells, hcells⟩, hslots⟩ := h
  unfold add? UsageCache.add
  by_cases hk : c.contains k = true
  · rw [if_pos hk, if_pos hk]
    exact ⟨rfl, rfl, ⟨cells, hcells⟩, hslots⟩
  · rw [if_neg hk, if_neg hk]
    have hn : cells.length ≤ c.list.size := by simp [hcells.size_eq, entriesOf]
    obtain ⟨rest, hshrink, hrest, hroom, hsub, hsame⟩ := hcells.shrink victim c.capacity hn
    rw [← hsame] at hslots
    rw [hshrink]
    simp only [Option.bind_eq_bind, Option.bind_some]
    by_cases hzero : c.capacity = 0
    · rw [if_pos hzero, if_pos hzero]
      exact ⟨rfl, rfl, ⟨rest, hrest⟩, hslots⟩
    · rw [if_neg hzero, if_neg hzero]
      have hnew : k ∉ (entriesOf rest).map Prod.fst := by
        intro hmem
        obtain ⟨e, he, rfl⟩ := List.mem_map.1 hmem
        obtain ⟨r, hr, rfl⟩ := List.mem_map.1 he
        refine hk ?_
        rw [contains, hcells.contains_eq, isSome_lookup_iff]
        exact List.mem_map_of_mem (List.mem_map_of_mem (hsub hr))
      have hfits : rest.length + 1 ≤ c.capacity := by
        rcases hroom with rfl | hfits
        · exact Nat.one_le_iff_ne_zero.2 hzero
        · exact hfits
      obtain ⟨⟨s, hpush⟩, hsize⟩ := hrest.push hnew v
      refine ⟨?_, rfl, ⟨_, hpush⟩, ?_⟩
      · rw [hrest.push?_eq]
        rfl
      · exact Nat.le_trans hsize (Nat.max_le.2 ⟨hslots, hfits⟩)

/-- **One operation** meets all expectations and keeps the invariant. -/
theorem step (h : c.Sound capacity) (victim : Victim) (op : CacheOp κ ν) :
    c.step? victim op = some (c.step victim op) ∧ (c.step victim op).Sound capacity := by
  cases op with
  | add k v => exact h.add victim k v
  | get k =>
    obtain ⟨hget, hsound⟩ := h.get k
    refine ⟨?_, hsound⟩
    rw [step?, hget]
    rfl

/-- So do any operations one after another. -/
theorem foldl (h : c.Sound capacity) (victim : Victim) (ops : List (CacheOp κ ν)) :
    ops.foldlM (step? victim) c = some (ops.foldl (UsageCache.step victim) c) ∧
      (ops.foldl (UsageCache.step victim) c).Sound capacity := by
  induction ops generalizing c with
  | nil => exact ⟨rfl, h⟩
  | cons op ops ih =>
    obtain ⟨hstep, hsound⟩ := h.step victim op
    rw [List.foldlM_cons, hstep]
    exact ih hsound

end Sound

end UsageCache

namespace Cache

variable [DecidableEq κ]

/-- A cache in order of use works on its list. -/
theorem foldl_usage (choose : List (κ × ν) → Nat) (victim : Victim) (c : UsageCache κ ν) (ops : List (CacheOp κ ν)) :
    ops.foldl (Cache.step choose) (.usage victim c) = .usage victim (ops.foldl (UsageCache.step victim) c) := by
  induction ops generalizing c with
  | nil => rfl
  | cons op ops ih =>
    rw [List.foldl_cons, List.foldl_cons, ← ih]
    cases op <;> rfl

/-- **Lists in order of use stay intact**: after any operations on a cache that gives up the least or the most recently
used key, its list is in order and has no more slots than the cache has room for; and on the way every slot that was
expected to be occupied was. -/
theorem usage_lists_stay_intact (capacity : Nat) (victim : Victim) (choose : List (κ × ν) → Nat)
    (ops : List (CacheOp κ ν)) :
    ∃ c : UsageCache κ ν,
      ops.foldl (Cache.step choose) (ofSpec ⟨.ordered victim true, capacity⟩) = .usage victim c ∧
        c.list.Intact ∧ c.list.slots.size ≤ capacity ∧
        ops.foldlM (UsageCache.step? victim) { capacity := capacity } = some c := by
  have hstart : ofSpec ⟨.ordered victim true, capacity⟩ =
      (.usage victim { capacity := capacity } : Cache κ ν) := by
    cases victim <;> rfl
  obtain ⟨hrun, hsound⟩ := (UsageCache.sound_empty (κ := κ) (ν := ν) capacity).foldl victim ops
  obtain ⟨cells, hcells⟩ := hsound.packed
  refine ⟨_, ?_, hcells.intact, hsound.size_slots_le, hrun⟩
  rw [hstart, foldl_usage]

end Cache

end TaskFlow
