import TaskFlow.Cache.Basic
import TaskFlow.Data.Fields
import TaskFlow.Proofs.Data.Entries

/-!
# Lists of entries as caches

- `eraseKey_split`: the entry of a key that is not repeated is erased alone;
- `Victim.join`: an item at the end of an order that is given up; every other order is one, or empty
  (`Victim.eq_nil_or_join`);
- `CacheModel.room_of_fits`, `CacheModel.room_of_full`: room is made by giving up one entry after the other, as long as
  one more does not fit;
- `CacheModel.nodup_add`: no key is stored twice.
-/

namespace TaskFlow

/-! ## Entries erased and moved -/

section Entries

variable {κ ν : Type} [DecidableEq κ] {es before after : List (κ × ν)} {k : κ} {v : ν}

theorem eraseKey_of_notMem (h : k ∉ es.map Prod.fst) : eraseKey k es = es := by
  rw [eraseKey, List.filter_eq_self]
  intro e he
  have hne : e.1 ≠ k := fun heq => h (heq ▸ List.mem_map_of_mem he)
  simpa using hne

/-- The entry of a key is erased and all others stay. -/
theorem eraseKey_split (h : ((before ++ (k, v) :: after).map Prod.fst).Nodup) :
    eraseKey k (before ++ (k, v) :: after) = before ++ after := by
  have hnot : k ∉ (before ++ after).map Prod.fst := by
    have hperm : ((before ++ (k, v) :: after).map Prod.fst).Perm (k :: (before ++ after).map Prod.fst) :=
      List.perm_middle.map Prod.fst
    exact (List.nodup_cons.1 (hperm.nodup_iff.1 h)).1
  have hrest := eraseKey_of_notMem hnot
  simp only [eraseKey, List.filter_append] at hrest ⊢
  simpa using hrest

theorem lookup_eraseKey (k : κ) (es : List (κ × ν)) (k' : κ) :
    (eraseKey k es).lookup k' = if k' = k then none else es.lookup k' := by
  induction es with
  | nil => simp [eraseKey]
  | cons e es ih =>
    obtain ⟨l, v⟩ := e
    by_cases hl : l = k
    · have herase : eraseKey k ((l, v) :: es) = eraseKey k es := by simp [eraseKey, hl]
      rw [herase, ih, Fields.lookup_cons, hl]
      split <;> rfl
    · have hkeep : eraseKey k ((l, v) :: es) = (l, v) :: eraseKey k es := by simp [eraseKey, hl]
      rw [hkeep, Fields.lookup_cons, Fields.lookup_cons, ih]
      by_cases hk : k' = l
      · simp [hk, hl]
      · simp [hk]

/-- An item moved to the end. -/
theorem perm_moveLast {α : Type} (before after : List α) (a : α) :
    (before ++ after ++ [a]).Perm (before ++ a :: after) :=
  (List.perm_append_singleton a (before ++ after)).trans List.perm_middle.symm

end Entries

/-! ## The end of an order that is given up -/

namespace Victim

variable {α β : Type}

/-- An order with an item at the end that is given up. -/
def join : Victim → α → List α → List α
  | oldest, a, rest => a :: rest
  | newest, a, rest => rest ++ [a]

theorem eq_nil_or_join (victim : Victim) (as : List α) : as = [] ∨ ∃ a rest, as = victim.join a rest := by
  cases victim with
  | oldest =>
    cases as with
    | nil => exact Or.inl rfl
    | cons a rest => exact Or.inr ⟨a, rest, rfl⟩
  | newest =>
    rcases List.eq_nil_or_concat as with h | ⟨rest, a, h⟩
    · exact Or.inl h
    · exact Or.inr ⟨a, rest, by rw [h, List.concat_eq_append]; rfl⟩

theorem join_split (victim : Victim) (a : α) (rest : List α) :
    ∃ before after, victim.join a rest = before ++ a :: after ∧ rest = before ++ after := by
  cases victim with
  | oldest => exact ⟨[], rest, rfl, rfl⟩
  | newest => exact ⟨rest, [], rfl, (List.append_nil rest).symm⟩

@[simp] theorem map_join (victim : Victim) (f : α → β) (a : α) (rest : List α) :
    (victim.join a rest).map f = victim.join (f a) (rest.map f) := by
  cases victim <;> simp [join]

@[simp] theorem length_join (victim : Victim) (a : α) (rest : List α) :
    (victim.join a rest).length = rest.length + 1 := by
  cases victim <;> simp [join]

@[simp] theorem pop?_nil (victim : Victim) : victim.pop? ([] : List α) = none := by
  cases victim <;> rfl

@[simp] theorem pop?_join (victim : Victim) (a : α) (rest : List α) :
    victim.pop? (victim.join a rest) = some (a, rest) := by
  cases victim with
  | oldest => rfl
  | newest =>
    cases rest with
    | nil => rfl
    | cons b rest =>
      have hlast : ((b :: rest) ++ [a]).dropLast = b :: rest := List.dropLast_concat
      rw [List.cons_append] at hlast
      show some ((b :: (rest ++ [a])).getLast _, (b :: (rest ++ [a])).dropLast) = some (a, b :: rest)
      simp [hlast]

end Victim

variable {κ ν : Type}

namespace CacheModel

variable {m : CacheModel κ ν}

/-- Where one more entry fits, nothing is given up. -/
theorem room_of_fits (h : m.entries.length + 1 ≤ m.capacity) : m.room = m.entries := by
  unfold room
  split
  · rw [Nat.sub_eq_zero_of_le h, List.drop_zero]
  · rw [List.take_of_length_le (by omega)]

/-- Where it does not, the entry at the end to be given up goes, and room is made among the others. -/
theorem room_of_full {e : κ × ν} {rest : List (κ × ν)} (he : m.entries = m.victim.join e rest)
    (h : m.capacity < m.entries.length + 1) : m.room = ({ m with entries := rest } : CacheModel κ ν).room := by
  obtain ⟨capacity, victim, refreshes, entries⟩ := m
  simp only at he h
  subst he
  rw [Victim.length_join] at h
  cases victim with
  | oldest =>
    have hdrop : (e :: rest).length + 1 - capacity = (rest.length + 1 - capacity) + 1 := by
      simp only [List.length_cons]
      omega
    simp only [room, Victim.join, hdrop, List.drop_succ_cons]
  | newest =>
    have htake : capacity - 1 ≤ rest.length := by omega
    simp only [room, Victim.join, List.take_append_of_le_length htake]

@[simp] theorem room_nil (h : m.entries = []) : m.room = [] := by
  unfold room
  split <;> simp [h]

/-- What stays was there before, in the same order. -/
theorem room_sublist (m : CacheModel κ ν) : m.room.Sublist m.entries := by
  unfold room
  split
  · exact List.drop_sublist _ _
  · exact List.take_sublist _ _

end CacheModel

/-! ## Operations -/

/-- What can be asked of a cache. -/
inductive CacheOp (κ ν : Type) where
  | add (k : κ) (v : ν)
  | get (k : κ)

variable [DecidableEq κ]

/-- A cache after an operation. -/
def Cache.step (choose : List (κ × ν) → Nat) (c : Cache κ ν) : CacheOp κ ν → Cache κ ν
  | .add k v => c.add choose k v
  | .get k => (c.get k).2

namespace CacheModel

variable {m : CacheModel κ ν}

/-- The entries after an operation. -/
def step (m : CacheModel κ ν) : CacheOp κ ν → CacheModel κ ν
  | .add k v => m.add k v
  | .get k => (m.get k).2

/-- A key that is added is not stored twice. -/
theorem nodup_add (h : (m.entries.map Prod.fst).Nodup) (k : κ) (v : ν) :
    ((m.add k v).entries.map Prod.fst).Nodup := by
  have hroom : (m.room.map Prod.fst).Nodup := (m.room_sublist.map Prod.fst).nodup h
  unfold add
  split
  · exact h
  · rename_i hk
    rw [Bool.not_eq_true, Option.isSome_eq_false_iff, Option.isNone_iff_eq_none, lookup_eq_none_iff_notMem] at hk
    show (List.map Prod.fst (if m.capacity = 0 then m.room else m.room ++ [(k, v)])).Nodup
    split
    · exact hroom
    · have hnot : k ∉ m.room.map Prod.fst := fun hmem => hk ((m.room_sublist.map Prod.fst).mem hmem)
      have hnodup := hroom.concat hnot
      rw [List.map_append]
      simpa using hnodup

end CacheModel

end TaskFlow
