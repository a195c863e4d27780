import TaskFlow.Proofs.Cache.Chain
import TaskFlow.Proofs.Cache.Model

/-!
# Caches in order of use as lists of entries

- `UsageList.Holds`: the records of a chain, found by key through the index, and the free slots outside of it;
- `Holds.touch`, `Holds.remove`, `Holds.push`: one lemma for each operation on a list;
- `UsageCache.Holds`: a cache stores the entries of a list in their order; `Holds.add`, `Holds.get`: entries are put in
  and looked up as in the list.
-/

namespace TaskFlow

variable {κ ν : Type}

namespace UsageList

variable {l : UsageList κ ν} {s t : Nat} {k : κ} {v : ν} {cells as bs : List (Nat × κ × ν)}

/-! ## What a change of links leaves alone -/

section Frame

variable {slot link : Option Nat}

@[simp] theorem index_setNext : (l.setNext slot link).index = l.index := by
  cases slot <;> rfl

@[simp] theorem index_setPrev : (l.setPrev slot link).index = l.index := by
  cases slot <;> rfl

@[simp] theorem free_setNext : (l.setNext slot link).free = l.free := by
  cases slot <;> rfl

@[simp] theorem free_setPrev : (l.setPrev slot link).free = l.free := by
  cases slot <;> rfl

@[simp] theorem size_setNext : (l.setNext slot link).slots.size = l.slots.size := by
  cases slot <;> simp [setNext, modify]

@[simp] theorem size_setPrev : (l.setPrev slot link).slots.size = l.slots.size := by
  cases slot <;> simp [setPrev, modify]

@[simp] theorem index_unlink : (l.unlink s).index = l.index := by
  unfold unlink
  split <;> simp [modify]

@[simp] theorem free_unlink : (l.unlink s).free = l.free := by
  unfold unlink
  split <;> simp [modify]

@[simp] theorem size_unlink : (l.unlink s).slots.size = l.slots.size := by
  unfold unlink
  split <;> simp [modify]

@[simp] theorem index_linkLast : (l.linkLast s).index = l.index := by
  simp [linkLast, modify]

@[simp] theorem free_linkLast : (l.linkLast s).free = l.free := by
  simp [linkLast, modify]

@[simp] theorem size_linkLast : (l.linkLast s).slots.size = l.slots.size := by
  simp [linkLast, modify]

end Frame

theorem lt_size_of_record? {r : UsageRecord κ ν} (h : l.record? s = some r) : s < l.slots.size := by
  unfold record? at h
  by_contra hge
  simp [Array.getElem?_eq_none (Nat.le_of_not_lt hge)] at h

/-! ## The records of a list -/

/-- The entries of some records. -/
def entriesOf (cells : List (Nat × κ × ν)) : List (κ × ν) := cells.map Prod.snd

/-- The slots of some records by key. -/
def slotsOf (cells : List (Nat × κ × ν)) : List (κ × Nat) := cells.map fun c => (c.2.1, c.1)

theorem keys_slotsOf : (slotsOf cells).map Prod.fst = (entriesOf cells).map Prod.fst := by
  simp [slotsOf, entriesOf]

@[simp] theorem slotsOf_append : slotsOf (as ++ bs) = slotsOf as ++ slotsOf bs := by
  simp [slotsOf]

@[simp] theorem entriesOf_append : entriesOf (as ++ bs) = entriesOf as ++ entriesOf bs := by
  simp [entriesOf]

/-- A list with the records of a chain: the index finds their slots, and the free slots are other ones. -/
structure Holds (l : UsageList κ ν) (cells : List (Nat × κ × ν)) : Prop where
  chain : l.Chain cells
  keys_nodup : ((entriesOf cells).map Prod.fst).Nodup
  index_perm : l.index.Perm (slotsOf cells)
  free_nodup : l.free.Nodup
  lt_size_of_free : ∀ s ∈ l.free, s < l.slots.size
  free_unused : ∀ s ∈ l.free, s ∉ cells.map Prod.fst

theorem holds_empty : ({} : UsageList κ ν).Holds [] where
  chain := ⟨trivial, rfl, rfl, List.nodup_nil⟩
  keys_nodup := List.nodup_nil
  index_perm := List.Perm.nil
  free_nodup := List.nodup_nil
  lt_size_of_free := nofun
  free_unused := nofun

namespace Holds

theorem size_eq [DecidableEq κ] (h : l.Holds cells) : l.size = (entriesOf cells).length := by
  have hlength := h.index_perm.length_eq
  simpa [size, slotsOf, entriesOf] using hlength

/-- The slot that is freed is none of those that are free. -/
theorem notMem_free (h : l.Holds (as ++ (s, k, v) :: bs)) : s ∉ l.free := by
  intro hs
  exact h.free_unused s hs (by simp)

/-- A free slot, or a new one, gets a record outside of the chain. -/
theorem occupy (h : l.Holds cells) (r : UsageRecord κ ν) :
    (l.occupy r).2.Holds cells ∧ (l.occupy r).2.record? (l.occupy r).1 = some r ∧
      (l.occupy r).1 ∉ cells.map Prod.fst ∧ (l.occupy r).1 ∉ (l.occupy r).2.free ∧
      (l.occupy r).2.index = l.index := by
  unfold UsageList.occupy
  cases hfree : l.free with
  | nil =>
    have hnew : l.slots.size ∉ cells.map Prod.fst := by
      intro hmem
      obtain ⟨r, hr⟩ := h.chain.exists_record? hmem
      exact Nat.lt_irrefl _ (lt_size_of_record? hr)
    refine ⟨⟨h.chain.congr (fun t ht => ?_) rfl rfl, h.keys_nodup, h.index_perm, ?_, ?_, ?_⟩, ?_, hnew, ?_, rfl⟩
    · have hne : t ≠ l.slots.size := fun heq => hnew (heq ▸ ht)
      simp [record?, Array.getElem?_push, hne]
    · simp
    · simp
    · simp
    · simp [record?]
    · simp
  | cons slot free =>
    have hmem : slot ∈ l.free := by simp [hfree]
    have hnew := h.free_unused slot hmem
    have hnodup := h.free_nodup
    rw [hfree, List.nodup_cons] at hnodup
    have hrest : ∀ t ∈ free, t ∈ l.free := fun t ht => hfree ▸ List.mem_cons_of_mem _ ht
    refine ⟨⟨h.chain.congr (fun t ht => ?_) rfl rfl, h.keys_nodup, h.index_perm, hnodup.2, fun t ht => ?_,
      fun t ht => h.free_unused t (hrest t ht)⟩, ?_, hnew, hnodup.1, rfl⟩
    · have hne : slot ≠ t := fun heq => hnew (heq ▸ ht)
      simp [record?, hne]
    · simpa using h.lt_size_of_free t (hrest t ht)
    · simp [record?, h.lt_size_of_free slot hmem]

/-- A new key comes to the end of the chain. -/
theorem push (h : l.Holds cells) (hk : k ∉ (entriesOf cells).map Prod.fst) (v : ν) :
    ∃ s, (l.push k v).Holds (cells ++ [(s, k, v)]) := by
  obtain ⟨hholds, hrecord, hnew, hused, hindex⟩ := h.occupy ⟨k, v, none, none⟩
  generalize hslot : (l.occupy ⟨k, v, none, none⟩).1 = s at *
  generalize hlist : (l.occupy ⟨k, v, none, none⟩).2 = l' at *
  have hpush : l.push k v = { l'.linkLast s with index := (k, s) :: (l'.linkLast s).index } := by
    simp only [UsageList.push, hslot, hlist, index_linkLast]
  refine ⟨s, ?_⟩
  rw [hpush]
  refine ⟨(hholds.chain.linkLast hrecord hnew).congr (fun _ _ => rfl) rfl rfl, ?_, ?_, ?_, ?_, ?_⟩
  · have hnodup := h.keys_nodup.concat hk
    rw [entriesOf_append, List.map_append]
    simpa [entriesOf] using hnodup
  · rw [slotsOf_append]
    simp only [index_linkLast, hindex]
    exact (h.index_perm.cons (k, s)).trans (List.perm_append_singleton (k, s) _).symm
  · simpa using hholds.free_nodup
  · simpa using hholds.lt_size_of_free
  · intro t ht hmem
    simp only [free_linkLast] at ht
    rw [List.map_append, List.mem_append] at hmem
    rcases hmem with hmem | hmem
    · exact hholds.free_unused t ht hmem
    · have hts : t = s := List.mem_singleton.1 hmem
      exact hused (hts ▸ ht)

/-- The slot that is given up is that of the record at the end to be given up. -/
theorem victimSlot_eq (victim : Victim) {c : Nat × κ × ν} {rest : List (Nat × κ × ν)}
    (h : l.Holds (victim.join c rest)) : l.victimSlot victim = some c.1 := by
  cases victim with
  | oldest => exact h.chain.head_eq
  | newest =>
    have htail := h.chain.tail_eq
    rw [Victim.join, lastSlot_concat] at htail
    exact htail

variable [DecidableEq κ]

theorem lookup_index (h : l.Holds cells) : l.index.lookup k = (slotsOf cells).lookup k := by
  refine lookup_perm h.index_perm ((h.index_perm.map Prod.fst).nodup_iff.2 ?_)
  rw [keys_slotsOf]
  exact h.keys_nodup

theorem lookup_index_eq_some (h : l.Holds (as ++ (s, k, v) :: bs)) : l.index.lookup k = some s := by
  rw [h.lookup_index, ← mem_iff_lookup (keys_slotsOf ▸ h.keys_nodup)]
  simp [slotsOf]

theorem contains_eq (h : l.Holds cells) : l.contains k = ((entriesOf cells).lookup k).isSome := by
  rw [contains, h.lookup_index, Bool.eq_iff_iff, isSome_lookup_iff, isSome_lookup_iff, keys_slotsOf]

/-- A key that is there is looked up, and its record goes to the end of the chain. -/
theorem touch (h : l.Holds (as ++ (s, k, v) :: bs)) :
    (l.touch k).1 = some v ∧ (l.touch k).2.Holds (as ++ bs ++ [(s, k, v)]) := by
  obtain ⟨hchain, hrecord⟩ := h.chain.unlink
  have hnew := h.chain.nodup_split.1
  have hlinked := hchain.linkLast hrecord hnew
  have hperm := perm_moveLast as bs (s, k, v)
  have htouch : l.touch k = ((((l.unlink s).linkLast s).record? s).map (·.value), (l.unlink s).linkLast s) := by
    rw [UsageList.touch, h.lookup_index_eq_some]
  rw [htouch]
  refine ⟨?_, hlinked, ?_, ?_, ?_, ?_, ?_⟩
  · have hlast := hlinked.record?_eq
    simp only at hlast
    rw [hlast]
    rfl
  · exact ((hperm.map Prod.snd).map Prod.fst).nodup_iff.2 h.keys_nodup
  · rw [index_linkLast, index_unlink]
    exact h.index_perm.trans (hperm.map _).symm
  · rw [free_linkLast, free_unlink]
    exact h.free_nodup
  · rw [free_linkLast, free_unlink, size_linkLast, size_unlink]
    exact h.lt_size_of_free
  · rw [free_linkLast, free_unlink]
    intro t ht hmem
    exact h.free_unused t ht ((hperm.map Prod.fst).mem_iff.1 hmem)

theorem touch_of_lookup_eq_none (h : l.Holds cells) (hk : (entriesOf cells).lookup k = none) :
    l.touch k = (none, l) := by
  have hindex : l.index.lookup k = none := by
    rw [h.lookup_index, lookup_eq_none_iff_notMem, keys_slotsOf, ← lookup_eq_none_iff_notMem]
    exact hk
  rw [UsageList.touch, hindex]

/-- A record is removed and its slot is free. -/
theorem remove (h : l.Holds (as ++ (s, k, v) :: bs)) : (l.remove s).Holds (as ++ bs) := by
  obtain ⟨hchain, hrecord⟩ := h.chain.unlink
  have hnew := h.chain.nodup_split.1
  have hremove : l.remove s = { l.unlink s with
      slots := (l.unlink s).slots.setIfInBounds s none
      free := s :: (l.unlink s).free
      index := eraseKey k (l.unlink s).index } := by
    rw [UsageList.remove, h.chain.record?_eq]
  have hkeys : ((slotsOf (as ++ (s, k, v) :: bs)).map Prod.fst).Nodup := keys_slotsOf ▸ h.keys_nodup
  have hslots : slotsOf (as ++ (s, k, v) :: bs) = slotsOf as ++ (k, s) :: slotsOf bs := by simp [slotsOf]
  rw [hremove]
  refine ⟨hchain.congr (fun t ht => ?_) rfl rfl, ?_, ?_, ?_, ?_, ?_⟩
  · have hne : s ≠ t := fun heq => hnew (heq ▸ ht)
    simp [record?, hne]
  · have hsub : (as ++ bs).Sublist (as ++ (s, k, v) :: bs) := (List.sublist_cons_self _ _).append_left _
    exact ((hsub.map Prod.snd).map Prod.fst).nodup h.keys_nodup
  · have hperm : (eraseKey k l.index).Perm (eraseKey k (slotsOf (as ++ (s, k, v) :: bs))) :=
      h.index_perm.filter _
    rw [hslots] at hkeys hperm
    rw [eraseKey_split hkeys] at hperm
    simpa using hperm
  · simp only [free_unlink, List.nodup_cons]
    exact ⟨h.notMem_free, h.free_nodup⟩
  · intro t ht
    simp only [free_unlink, Array.size_setIfInBounds, size_unlink] at ht ⊢
    rcases List.mem_cons.1 ht with rfl | ht
    · exact lt_size_of_record? h.chain.record?_eq
    · exact h.lt_size_of_free t ht
  · intro t ht hmem
    simp only [free_unlink] at ht
    rcases List.mem_cons.1 ht with rfl | ht
    · exact hnew hmem
    · refine h.free_unused t ht ?_
      rw [List.map_append, List.mem_append] at hmem
      rw [List.map_append, List.map_cons, List.mem_append, List.mem_cons]
      exact hmem.imp_right Or.inr

/-- Room is made as in the list of entries. By induction on the number of records that may go. -/
theorem shrink : ∀ {n : Nat} {l : UsageList κ ν} {cells : List (Nat × κ × ν)} {m : CacheModel κ ν}, l.Holds cells →
    entriesOf cells = m.entries → cells.length ≤ n →
    ∃ rest, (l.shrink m.victim m.capacity n).Holds rest ∧ entriesOf rest = m.room
  | 0, l, cells, m, h, he, hn => by
    have hnil : cells = [] := List.eq_nil_of_length_eq_zero (Nat.le_zero.1 hn)
    subst hnil
    exact ⟨[], h, (CacheModel.room_nil he.symm).symm⟩
  | n + 1, l, cells, m, h, he, hn => by
    have hsize : l.size = m.entries.length := by rw [h.size_eq, he]
    rw [UsageList.shrink, hsize]
    split
    · rename_i hfits
      exact ⟨cells, h, he.trans (CacheModel.room_of_fits hfits).symm⟩
    · rename_i hfull
      rcases m.victim.eq_nil_or_join cells with rfl | ⟨⟨s, k, v⟩, rest, hcells⟩
      · have hslot : l.victimSlot m.victim = none := by
          cases m.victim with
          | oldest => exact h.chain.head_eq
          | newest => exact h.chain.tail_eq
        rw [hslot]
        exact ⟨[], h, (CacheModel.room_nil he.symm).symm⟩
      · obtain ⟨as, bs, hjoin, hrest⟩ := m.victim.join_split (s, k, v) rest
        have hentries : m.entries = m.victim.join (k, v) (entriesOf rest) := by
          rw [← he, hcells, entriesOf, Victim.map_join]
          rfl
        have hlt : rest.length ≤ n := by
          rw [hcells, Victim.length_join] at hn
          omega
        have hremoved : (l.remove s).Holds rest := by
          rw [hcells, hjoin] at h
          rw [hrest]
          exact h.remove
        rw [CacheModel.room_of_full hentries (by omega), victimSlot_eq m.victim (hcells ▸ h)]
        exact shrink (m := { m with entries := entriesOf rest }) hremoved rfl hlt

end Holds

end UsageList

namespace UsageCache

open UsageList

variable {c : UsageCache κ ν} {m : CacheModel κ ν}

/-- A cache that stores the entries of a list in their order. -/
structure Holds (c : UsageCache κ ν) (m : CacheModel κ ν) : Prop where
  capacity_eq : c.capacity = m.capacity
  exists_cells : ∃ cells, c.list.Holds cells ∧ entriesOf cells = m.entries

namespace Holds

variable [DecidableEq κ]

theorem size_eq (h : c.Holds m) : c.size = m.entries.length := by
  obtain ⟨cells, hcells, he⟩ := h.exists_cells
  rw [size, hcells.size_eq, he]

theorem contains_eq (h : c.Holds m) (k : κ) : c.contains k = (m.entries.lookup k).isSome := by
  obtain ⟨cells, hcells, he⟩ := h.exists_cells
  rw [contains, hcells.contains_eq, he]

/-- A key is looked up as in a list that moves its entry to the newest end. -/
theorem get (h : c.Holds m) (hrefreshes : m.refreshes = true) (k : κ) :
    (c.get k).1 = (m.get k).1 ∧ (c.get k).2.Holds (m.get k).2 := by
  obtain ⟨cells, hcells, he⟩ := h.exists_cells
  unfold UsageCache.get CacheModel.get
  cases hlookup : m.entries.lookup k with
  | none =>
    rw [hcells.touch_of_lookup_eq_none (he ▸ hlookup)]
    exact ⟨rfl, h⟩
  | some v =>
    obtain ⟨before, after, hsplit⟩ := exists_split_of_lookup hlookup
    obtain ⟨as, rest, rfl, has, hrest⟩ := List.map_eq_append_iff.1 (he.trans hsplit)
    obtain ⟨⟨s, k', v'⟩, bs, rfl, hs, hbs⟩ := List.map_eq_cons_iff.1 hrest
    cases hs
    obtain ⟨hvalue, htouched⟩ := hcells.touch
    have hkeys : ((before ++ (k, v) :: after).map Prod.fst).Nodup := by
      rw [← hsplit, ← he]
      exact hcells.keys_nodup
    refine ⟨hvalue, ?_⟩
    simp only [hrefreshes, if_true]
    refine ⟨h.capacity_eq, _, htouched, ?_⟩
    rw [hsplit, eraseKey_split hkeys, ← has, ← hbs]
    simp [entriesOf]

/-- An entry is put in as in the list. -/
theorem add (h : c.Holds m) (k : κ) (v : ν) : (c.add m.victim k v).Holds (m.add k v) := by
  obtain ⟨cells, hcells, he⟩ := h.exists_cells
  unfold UsageCache.add CacheModel.add
  rw [h.contains_eq k]
  split
  · exact h
  · rename_i hk
    have hk' : k ∉ m.entries.map Prod.fst := by rwa [isSome_lookup_iff] at hk
    have hn : cells.length ≤ c.list.size := by simp [hcells.size_eq, entriesOf]
    obtain ⟨rest, hrest, hroom⟩ := hcells.shrink he hn
    rw [h.capacity_eq]
    by_cases hzero : m.capacity = 0
    · simp only [if_pos hzero]
      exact ⟨rfl, rest, hrest, hroom⟩
    · simp only [if_neg hzero]
      have hnew : k ∉ (entriesOf rest).map Prod.fst := by
        rw [hroom]
        exact fun hmem => hk' ((m.room_sublist.map Prod.fst).mem hmem)
      obtain ⟨s, hpush⟩ := hrest.push hnew v
      refine ⟨rfl, _, hpush, ?_⟩
      rw [entriesOf_append, hroom]
      rfl

end Holds

end UsageCache

end TaskFlow
