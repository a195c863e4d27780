import TaskFlow.Proofs.Cache.Model

/-!
# Caches in order of insertion as lists of entries

- `QueueCache.Holds`: a cache stores the entries of a list, its keys in their order;
- `Holds.get?_eq`, `Holds.size_eq`: what is stored is what the list has;
- `Holds.shrink`, `Holds.add`: room is made, and a new entry put in, as in the list.
-/

namespace TaskFlow.QueueCache

variable {κ ν : Type} {c : QueueCache κ ν} {m : CacheModel κ ν}

/-- A cache that stores the entries of a list: the keys in their order, the values by key. -/
structure Holds (c : QueueCache κ ν) (m : CacheModel κ ν) : Prop where
  capacity_eq : c.capacity = m.capacity
  order_eq : c.order = m.entries.map Prod.fst
  items_perm : c.items.Perm m.entries
  nodup : (m.entries.map Prod.fst).Nodup

namespace Holds

theorem size_eq (h : c.Holds m) : c.size = m.entries.length := h.items_perm.length_eq

variable [DecidableEq κ]

theorem get?_eq (h : c.Holds m) (k : κ) : c.get? k = m.entries.lookup k :=
  lookup_perm h.items_perm ((h.items_perm.map Prod.fst).nodup_iff.2 h.nodup)

/-- The key at the end to be given up goes with its value. -/
theorem giveUp (h : c.Holds m) {k : κ} {v : ν} {rest : List (κ × ν)} (he : m.entries = m.victim.join (k, v) rest) :
    ({ c with order := rest.map Prod.fst, items := eraseKey k c.items } : QueueCache κ ν).Holds
      { m with entries := rest } := by
  obtain ⟨before, after, hjoin, hrest⟩ := m.victim.join_split (k, v) rest
  have hentries : m.entries = before ++ (k, v) :: after := he.trans hjoin
  have hnodup := h.nodup
  rw [hentries] at hnodup
  have herase : eraseKey k m.entries = rest := by rw [hentries, eraseKey_split hnodup, hrest]
  have hsub : rest.Sublist m.entries := by
    rw [hentries, hrest]
    exact (List.sublist_cons_self _ _).append_left _
  refine ⟨h.capacity_eq, rfl, ?_, (hsub.map Prod.fst).nodup h.nodup⟩
  have hperm := h.items_perm.filter fun e => e.1 ≠ k
  rw [← herase]
  exact hperm

/-- Room is made as in the list. By induction on the number of entries that may go. -/
theorem shrink : ∀ {n : Nat} {c : QueueCache κ ν} {m : CacheModel κ ν}, c.Holds m → m.entries.length ≤ n →
    (c.shrink m.victim n).Holds { m with entries := m.room }
  | 0, c, m, h, hn => by
    have hnil : m.entries = [] := List.eq_nil_of_length_eq_zero (Nat.le_zero.1 hn)
    have hroom : m.room = m.entries := by rw [CacheModel.room_nil hnil, hnil]
    rw [hroom]
    exact h
  | n + 1, c, m, h, hn => by
    have hlength : c.order.length = m.entries.length := by rw [h.order_eq, List.length_map]
    rw [QueueCache.shrink, hlength]
    split
    · rename_i hfits
      rw [CacheModel.room_of_fits (h.capacity_eq ▸ hfits)]
      exact h
    · rename_i hfull
      rw [h.capacity_eq] at hfull
      rcases m.victim.eq_nil_or_join m.entries with hnil | ⟨⟨k, v⟩, rest, he⟩
      · rw [h.order_eq, CacheModel.room_nil hnil, hnil, List.map_nil, Victim.pop?_nil]
        rw [← hnil]
        exact h
      · have hlt : rest.length ≤ n := by
          rw [he, Victim.length_join] at hn
          omega
        rw [CacheModel.room_of_full he (by omega), h.order_eq, he, Victim.map_join, Victim.pop?_join]
        exact shrink (h.giveUp he) hlt

/-- An entry is put in as in the list. -/
theorem add (h : c.Holds m) (k : κ) (v : ν) : (c.add m.victim k v).Holds (m.add k v) := by
  have hnodup := CacheModel.nodup_add h.nodup k v
  have hget := h.get?_eq k
  unfold QueueCache.add CacheModel.add at *
  rw [contains, hget]
  split
  · exact h
  · rename_i hk
    rw [if_neg hk] at hnodup
    have hroom : (c.makeRoom m.victim).Holds { m with entries := m.room } := h.shrink (by simp [h.order_eq])
    have hcapacity : (c.makeRoom m.victim).capacity = m.capacity := hroom.capacity_eq
    by_cases hzero : m.capacity = 0
    · simp only [hcapacity, if_pos hzero]
      exact hroom
    · simp only [hcapacity, if_neg hzero] at hnodup ⊢
      refine ⟨rfl, ?_, ?_, hnodup⟩
      · simp only [hroom.order_eq, List.map_append, List.map_cons, List.map_nil]
      · exact (hroom.items_perm.cons (k, v)).trans (List.perm_append_singleton (k, v) m.room).symm

end Holds

end TaskFlow.QueueCache
