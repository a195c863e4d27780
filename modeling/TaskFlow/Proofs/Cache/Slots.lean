import Mathlib.Data.List.Induction
import TaskFlow.Proofs.Cache.Usage

/-!
# The slots of a usage list

- `UsageList.occupied`: whether a slot has a record; a change of links leaves every slot as it was (`occupied_unlink`,
  `occupied_linkLast`);
- `UsageList.Packed`: the occupied slots are those of the chain, and all others are free; `Packed.touch`,
  `Packed.remove`, `Packed.push`: so they stay, and a slot is added only where none is free;
- `UsageList.Visits`: the slots that are met when links are followed;
- `UsageList.Intact`: what all of this amounts to without a chain in hand (`Packed.intact`).
-/

namespace TaskFlow

variable {κ ν : Type}

namespace UsageList

variable {l l' : UsageList κ ν} {s t : Nat} {k : κ} {v : ν} {cells cells' as bs : List (Nat × κ × ν)}

/-! ## Occupied slots -/

/-- Whether a slot has a record. -/
def occupied (l : UsageList κ ν) (s : Nat) : Bool := (l.record? s).isSome

theorem occupied_of_record? {r : UsageRecord κ ν} (h : l.record? s = some r) : l.occupied s = true := by
  simp [occupied, h]

theorem lt_size_of_occupied (h : l.occupied s = true) : s < l.slots.size := by
  obtain ⟨_, hr⟩ := Option.isSome_iff_exists.1 h
  exact lt_size_of_record? hr

section Frame

variable {slot link : Option Nat}

@[simp] theorem occupied_modify (f : UsageRecord κ ν → UsageRecord κ ν) :
    (l.modify s f).occupied t = l.occupied t := by
  unfold occupied
  rw [record?_modify]
  split <;> simp

@[simp] theorem occupied_setNext : (l.setNext slot link).occupied t = l.occupied t := by
  unfold occupied
  rw [record?_setNext]
  split <;> simp

@[simp] theorem occupied_setPrev : (l.setPrev slot link).occupied t = l.occupied t := by
  unfold occupied
  rw [record?_setPrev]
  split <;> simp

@[simp] theorem occupied_unlink : (l.unlink s).occupied t = l.occupied t := by
  unfold unlink
  split <;> simp

@[simp] theorem occupied_linkLast : (l.linkLast s).occupied t = l.occupied t := by
  let placed := l.modify s fun r => { r with prev := l.tail, next := none }
  have hlinks : (l.linkLast s).occupied t = (placed.setNext l.tail (some s)).occupied t := rfl
  rw [hlinks, occupied_setNext, occupied_modify]

end Frame

/-! ## Lists without lost slots -/

/-- The records of a chain, and every other slot is free. -/
structure Packed (l : UsageList κ ν) (cells : List (Nat × κ × ν)) : Prop extends l.Holds cells where
  mem_of_occupied : ∀ s, l.occupied s = true → s ∈ cells.map Prod.fst
  mem_free : ∀ s, s < l.slots.size → l.occupied s = false → s ∈ l.free

theorem packed_empty : ({} : UsageList κ ν).Packed [] where
  toHolds := holds_empty
  mem_of_occupied _ hs := absurd (lt_size_of_occupied hs) (Nat.not_lt_zero _)
  mem_free _ hs := absurd hs (Nat.not_lt_zero _)

namespace Packed

theorem occupied_iff (h : l.Packed cells) : l.occupied s = true ↔ s ∈ cells.map Prod.fst := by
  refine ⟨h.mem_of_occupied s, fun hs => ?_⟩
  obtain ⟨_, hr⟩ := h.chain.exists_record? hs
  exact occupied_of_record? hr

theorem mem_free_iff (h : l.Packed cells) : s ∈ l.free ↔ s < l.slots.size ∧ l.occupied s = false := by
  refine ⟨fun hs => ⟨h.lt_size_of_free s hs, ?_⟩, fun ⟨hlt, hempty⟩ => h.mem_free s hlt hempty⟩
  rw [← Bool.not_eq_true, h.occupied_iff]
  exact h.free_unused s hs

/-- Where no slot is free, every slot has a record. -/
theorem size_slots_le (h : l.Packed cells) (hfree : l.free = []) : l.slots.size ≤ cells.length := by
  have hsub : List.range l.slots.size ⊆ cells.map Prod.fst := by
    intro s hs
    rw [← h.occupied_iff]
    by_contra hempty
    have hmem := h.mem_free s (List.mem_range.1 hs) (Bool.not_eq_true _ ▸ hempty)
    rw [hfree] at hmem
    cases hmem
  have hlength := (List.subperm_of_subset List.nodup_range hsub).length_le
  simpa using hlength

variable [DecidableEq κ]

/-- A record is put at the end of the chain and keeps its slot. -/
theorem touch (h : l.Packed (as ++ (s, k, v) :: bs)) : (l.touch k).2.Packed (as ++ bs ++ [(s, k, v)]) := by
  have htouch : (l.touch k).2 = (l.unlink s).linkLast s := by
    rw [UsageList.touch, h.lookup_index_eq_some]
  have hperm := (perm_moveLast as bs (s, k, v)).map Prod.fst
  refine ⟨h.toHolds.touch.2, fun t ht => ?_, fun t hlt ht => ?_⟩
  · rw [htouch, occupied_linkLast, occupied_unlink, h.occupied_iff] at ht
    exact hperm.mem_iff.2 ht
  · rw [htouch] at hlt ht ⊢
    rw [occupied_linkLast, occupied_unlink] at ht
    rw [size_linkLast, size_unlink] at hlt
    rw [free_linkLast, free_unlink]
    exact h.mem_free t hlt ht

theorem size_slots_remove (h : l.Packed (as ++ (s, k, v) :: bs)) : (l.remove s).slots.size = l.slots.size := by
  simp only [UsageList.remove, h.chain.record?_eq, Array.size_setIfInBounds, size_unlink]

/-- A record is removed, and its slot is the only one that becomes free. -/
theorem remove (h : l.Packed (as ++ (s, k, v) :: bs)) : (l.remove s).Packed (as ++ bs) := by
  have hrecord := h.chain.record?_eq
  have hslots : (l.remove s).slots = (l.unlink s).slots.setIfInBounds s none := by
    simp only [UsageList.remove, hrecord]
  have hfree : (l.remove s).free = s :: l.free := by
    simp only [UsageList.remove, hrecord, free_unlink]
  have hself : (l.remove s).occupied s = false := by
    have hlt : s < (l.unlink s).slots.size := by
      rw [size_unlink]
      exact lt_size_of_record? hrecord
    simp [occupied, record?, hslots, Array.getElem?_setIfInBounds_self_of_lt hlt]
  have hother : ∀ t, s ≠ t → (l.remove s).occupied t = l.occupied t := by
    intro t hne
    have hslot : (l.remove s).occupied t = (l.unlink s).occupied t := by
      simp [occupied, record?, hslots, Array.getElem?_setIfInBounds_ne hne]
    rw [hslot, occupied_unlink]
  refine ⟨h.toHolds.remove, fun t ht => ?_, fun t hlt ht => ?_⟩
  · have hne : s ≠ t := by
      rintro rfl
      rw [hself] at ht
      cases ht
    rw [hother t hne, h.occupied_iff, List.map_append, List.map_cons, List.mem_append, List.mem_cons] at ht
    rw [List.map_append, List.mem_append]
    exact ht.imp_right fun htail => htail.resolve_left hne.symm
  · rw [hfree, List.mem_cons]
    by_cases hne : s = t
    · exact Or.inl hne.symm
    · rw [hother t hne] at ht
      rw [hslots, Array.size_setIfInBounds, size_unlink] at hlt
      exact Or.inr (h.mem_free t hlt ht)

end Packed

theorem occupy_of_nil (h : l.free = []) (r : UsageRecord κ ν) :
    l.occupy r = (l.slots.size, { l with slots := l.slots.push (some r) }) := by
  simp only [occupy, h]

theorem occupy_of_cons {slot : Nat} {free : List Nat} (h : l.free = slot :: free) (r : UsageRecord κ ν) :
    l.occupy r = (slot, { l with slots := l.slots.setIfInBounds slot (some r), free := free }) := by
  simp only [occupy, h]

namespace Packed

/-- A slot is taken for a record, a free one if there is any, and no other one becomes occupied. -/
theorem occupy (h : l.Packed cells) (r : UsageRecord κ ν) :
    (∀ t, (l.occupy r).2.occupied t = true ↔ t = (l.occupy r).1 ∨ l.occupied t = true) ∧
      (∀ t, t < (l.occupy r).2.slots.size → (l.occupy r).2.occupied t = false → t ∈ (l.occupy r).2.free) ∧
      (l.occupy r).2.slots.size ≤ max l.slots.size (cells.length + 1) := by
  have hoccupied : ∀ t, (l.occupy r).2.occupied t = true ↔ t = (l.occupy r).1 ∨ l.occupied t = true := by
    intro t
    cases hfree : l.free with
    | nil =>
      rw [occupy_of_nil hfree]
      by_cases ht : t = l.slots.size <;> simp [occupied, record?, Array.getElem?_push, ht]
    | cons slot free =>
      have hlt := h.lt_size_of_free slot (by simp [hfree])
      rw [occupy_of_cons hfree]
      by_cases ht : slot = t
      · subst ht
        simp [occupied, record?, hlt]
      · simp [occupied, record?, ht, Ne.symm ht]
  refine ⟨hoccupied, fun t hlt ht => ?_, ?_⟩
  · rw [← Bool.not_eq_true, hoccupied, not_or, Bool.not_eq_true] at ht
    cases hfree : l.free with
    | nil =>
      rw [occupy_of_nil hfree] at hlt ht ⊢
      simp only [Array.size_push] at hlt
      exact h.mem_free t (by simp only at ht; omega) ht.2
    | cons slot free =>
      rw [occupy_of_cons hfree] at hlt ht ⊢
      simp only [Array.size_setIfInBounds] at hlt
      have hmem := h.mem_free t hlt ht.2
      rw [hfree, List.mem_cons] at hmem
      exact hmem.resolve_left ht.1
  · cases hfree : l.free with
    | nil =>
      have hsize := h.size_slots_le hfree
      rw [occupy_of_nil hfree]
      simp only [Array.size_push]
      omega
    | cons slot free =>
      rw [occupy_of_cons hfree]
      simp only [Array.size_setIfInBounds]
      omega

/-- A new key comes to the end of the chain. There are no more slots than before, or else one for each record. -/
theorem push (h : l.Packed cells) (hk : k ∉ (entriesOf cells).map Prod.fst) (v : ν) :
    (∃ s, (l.push k v).Packed (cells ++ [(s, k, v)])) ∧
      (l.push k v).slots.size ≤ max l.slots.size (cells.length + 1) := by
  obtain ⟨s, hholds⟩ := h.toHolds.push hk v
  obtain ⟨hoccupied, hfree, hsize⟩ := h.occupy ⟨k, v, none, none⟩
  generalize hslot : (l.occupy ⟨k, v, none, none⟩).1 = slot at *
  generalize hlist : (l.occupy ⟨k, v, none, none⟩).2 = l' at *
  have hpush : l.push k v = { l'.linkLast slot with index := (k, slot) :: (l'.linkLast slot).index } := by
    simp only [UsageList.push, hslot, hlist, index_linkLast]
  have hoccupied' : ∀ t, (l.push k v).occupied t = l'.occupied t := by
    intro t
    have hlinks : (l.push k v).occupied t = (l'.linkLast slot).occupied t := by rw [hpush]; rfl
    rw [hlinks, occupied_linkLast]
  have hsize' : (l.push k v).slots.size = l'.slots.size := by simp [hpush]
  have hfree' : (l.push k v).free = l'.free := by simp [hpush]
  -- the slot taken is the one that came to the chain, since that one was not occupied before
  have hs : s = slot := by
    have hchain := hholds.chain
    have hs : (l.push k v).occupied s = true := occupied_of_record? hchain.record?_eq
    rw [hoccupied', hoccupied] at hs
    refine hs.resolve_right fun hold => hchain.nodup_split.1 ?_
    simpa using h.occupied_iff.1 hold
  refine ⟨⟨s, hholds, fun t ht => ?_, fun t hlt ht => ?_⟩, hsize' ▸ hsize⟩
  · rw [hoccupied', hoccupied, h.occupied_iff, ← hs] at ht
    rw [List.map_append, List.mem_append]
    exact ht.symm.imp_right fun heq => by simp [heq]
  · rw [hfree']
    exact hfree t (hsize' ▸ hlt) (hoccupied' t ▸ ht)

end Packed

/-! ## Links followed -/

/-- The slots that are met when links are followed from one on until there is none. Each of them is occupied. -/
inductive Visits (l : UsageList κ ν) (link : UsageRecord κ ν → Option Nat) : Option Nat → List Nat → Prop where
  | stop : Visits l link none []
  | step {s : Nat} {r : UsageRecord κ ν} {slots : List Nat} (hrecord : l.record? s = some r)
      (hrest : Visits l link (link r) slots) : Visits l link (some s) (s :: slots)

/-- The links behind the records of a chain lead through it. -/
theorem Linked.visits_next {prev : Option Nat} (h : l.Linked prev cells none) :
    l.Visits (·.next) (firstSlot cells) (cells.map Prod.fst) := by
  induction cells generalizing prev with
  | nil => exact .stop
  | cons c cells ih =>
    obtain ⟨s, k, v⟩ := c
    obtain ⟨hs, hcells⟩ := h
    rw [Option.or_none] at hs
    exact .step hs (ih hcells)

/-- The links in front of them lead back. By induction from the end of the chain. -/
theorem Linked.visits_prev {next : Option Nat} (h : l.Linked none cells next) :
    l.Visits (·.prev) (lastSlot cells) (cells.map Prod.fst).reverse := by
  induction cells using List.reverseRecOn generalizing next with
  | nil => exact .stop
  | append_singleton init c ih =>
    obtain ⟨s, k, v⟩ := c
    obtain ⟨hinit, hs, -⟩ := linked_append.1 h
    rw [Option.or_none] at hs
    rw [lastSlot_concat, List.map_append, List.reverse_append]
    exact .step hs (ih hinit)

variable [DecidableEq κ]

/-- **A usage list in order**: the links from the head on meet every occupied slot once and end at the tail, those from
the tail on meet the same slots the other way round; there is no head and no tail just if the list is empty; each key
is found in the one slot that has it; and the other slots are free, each once. -/
structure Intact (l : UsageList κ ν) : Prop where
  order : ∃ slots, l.Visits (·.next) l.head slots ∧ l.Visits (·.prev) l.tail slots.reverse ∧
    slots.getLast? = l.tail ∧ slots.Nodup ∧ ∀ s, s ∈ slots ↔ l.occupied s = true
  head_eq_none_iff : l.head = none ↔ l.size = 0
  tail_eq_none_iff : l.tail = none ↔ l.size = 0
  keys_nodup : (l.index.map Prod.fst).Nodup
  lookup_index_iff : ∀ k s, l.index.lookup k = some s ↔ ∃ r, l.record? s = some r ∧ r.key = k
  free_nodup : l.free.Nodup
  mem_free_iff : ∀ s, s ∈ l.free ↔ s < l.slots.size ∧ l.occupied s = false

namespace Packed

/-- A key that is found stands in the chain, in the slot that is found for it. -/
theorem exists_split (h : l.Packed cells) (hk : l.index.lookup k = some s) :
    ∃ as v bs, cells = as ++ (s, k, v) :: bs := by
  rw [h.lookup_index] at hk
  obtain ⟨_, _, hsplit⟩ := exists_split_of_lookup hk
  obtain ⟨as, rest, rfl, -, hrest⟩ := List.map_eq_append_iff.1 hsplit
  obtain ⟨⟨s', k', v⟩, bs, rfl, hs, -⟩ := List.map_eq_cons_iff.1 hrest
  cases hs
  exact ⟨as, v, bs, rfl⟩

/-- The slot that a key is found in is the one that has it. -/
theorem lookup_index_iff (h : l.Packed cells) :
    l.index.lookup k = some s ↔ ∃ r, l.record? s = some r ∧ r.key = k := by
  constructor
  · intro hk
    obtain ⟨as, v, bs, rfl⟩ := h.exists_split hk
    exact ⟨_, h.chain.record?_eq, rfl⟩
  · rintro ⟨r, hr, rfl⟩
    obtain ⟨⟨s', k', v'⟩, hc, rfl⟩ := List.mem_map.1 (h.occupied_iff.1 (occupied_of_record? hr))
    obtain ⟨as, bs, rfl⟩ := List.append_of_mem hc
    have hrecord := h.chain.record?_eq
    rw [hr] at hrecord
    rw [Option.some.inj hrecord]
    exact h.lookup_index_eq_some

theorem intact (h : l.Packed cells) : l.Intact where
  order := by
    refine ⟨cells.map Prod.fst, ?_, ?_, ?_, h.chain.nodup, fun s => h.occupied_iff.symm⟩
    · rw [h.chain.head_eq]
      exact h.chain.linked.visits_next
    · rw [h.chain.tail_eq]
      exact h.chain.linked.visits_prev
    · rw [h.chain.tail_eq, lastSlot, List.getLast?_map]
  head_eq_none_iff := by rw [h.chain.head_eq, h.size_eq, firstSlot_eq_none_iff, List.length_eq_zero_iff, entriesOf,
    List.map_eq_nil_iff]
  tail_eq_none_iff := by rw [h.chain.tail_eq, h.size_eq, lastSlot_eq_none_iff, List.length_eq_zero_iff, entriesOf,
    List.map_eq_nil_iff]
  keys_nodup := by
    rw [(h.index_perm.map Prod.fst).nodup_iff, keys_slotsOf]
    exact h.keys_nodup
  lookup_index_iff _ _ := h.lookup_index_iff
  free_nodup := h.free_nodup
  mem_free_iff _ := h.mem_free_iff

end Packed

end UsageList

end TaskFlow
