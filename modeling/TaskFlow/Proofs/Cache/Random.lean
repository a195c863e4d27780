import Mathlib.Data.List.Induction
import TaskFlow.Proofs.Cache.Model

/-!
# Random replacement

- `RandomCache.length_shrink`: entries are given up until one more fits, and no further;
- `RandomCache.Sound`: no key is stored twice and no more than fits;
- `RandomCache.get?_add`: a new key goes in for at most one of the others, whichever the choice falls on;
- `Cache.LastAdded`: the value that came with the last addition of a key that was not there;
- `Cache.runRandom_safe`: what holds after any operations, each with a choice of its own.
-/

namespace TaskFlow

variable {κ ν : Type}

/-- The entry at a place goes with its key. -/
theorem eraseIdx_eq_eraseKey [DecidableEq κ] {es : List (κ × ν)} (h : (es.map Prod.fst).Nodup) {i : Nat}
    (hi : i < es.length) : es.eraseIdx i = eraseKey es[i].1 es := by
  have hsplit : es = es.take i ++ es[i] :: es.drop (i + 1) := by rw [List.getElem_cons_drop, List.take_append_drop]
  have hnodup := h
  rw [hsplit] at hnodup
  rw [List.eraseIdx_eq_take_drop_succ, ← eraseKey_split hnodup]
  exact congrArg (eraseKey es[i].1) hsplit.symm

namespace RandomCache

variable {c : RandomCache κ ν} {choose : List (κ × ν) → Nat}

/-! ## Giving up entries -/

/-- A choice gives up one entry, if there is any. -/
theorem length_eraseIdx_mod (es : List (κ × ν)) (n : Nat) : (es.eraseIdx (n % es.length)).length = es.length - 1 := by
  cases es with
  | nil => rfl
  | cons e es =>
    have hlt : n % (e :: es).length < (e :: es).length := Nat.mod_lt _ (Nat.succ_pos _)
    rw [List.length_eraseIdx, if_pos hlt]

/-- Where one more entry fits, none is given up. -/
theorem shrink_of_fits (h : c.items.length + 1 ≤ c.capacity) (n : Nat) : c.shrink choose n = c := by
  cases n with
  | zero => rfl
  | succ n => rw [shrink, if_pos h]

@[simp] theorem capacity_shrink (choose : List (κ × ν) → Nat) (n : Nat) (c : RandomCache κ ν) :
    (c.shrink choose n).capacity = c.capacity := by
  induction n generalizing c with
  | zero => rfl
  | succ n ih =>
    rw [shrink]
    split
    · rfl
    · rw [ih]

theorem shrink_eq (choose : List (κ × ν) → Nat) (n : Nat) (c : RandomCache κ ν) :
    c.shrink choose n = { c with items := (c.shrink choose n).items } := by
  rw [← capacity_shrink choose n c]

/-- What stays was there before. -/
theorem shrink_sublist (choose : List (κ × ν) → Nat) (n : Nat) (c : RandomCache κ ν) :
    (c.shrink choose n).items.Sublist c.items := by
  induction n generalizing c with
  | zero => exact List.Sublist.refl _
  | succ n ih =>
    rw [shrink]
    split
    · exact List.Sublist.refl _
    · exact (ih _).trans (List.eraseIdx_sublist _ _)

/-- Entries are given up until one more fits or none is left, and no further. -/
theorem length_shrink {n : Nat} (h : c.items.length ≤ n) :
    (c.shrink choose n).items.length = min c.items.length (c.capacity - 1) := by
  induction n generalizing c with
  | zero =>
    rw [shrink]
    omega
  | succ n ih =>
    have hlength := length_eraseIdx_mod c.items (choose c.items)
    rw [shrink]
    split
    · omega
    · rw [ih (by simp only [hlength]; omega)]
      simp only [hlength]
      omega

/-- No key is stored twice, and no more entries than fit. -/
structure Sound (c : RandomCache κ ν) : Prop where
  nodup : (c.items.map Prod.fst).Nodup
  fits : c.items.length ≤ c.capacity

theorem Sound.items_of_zero (h : c.Sound) (hzero : c.capacity = 0) : c.items = [] :=
  List.eq_nil_of_length_eq_zero (Nat.le_zero.1 (hzero ▸ h.fits))

variable [DecidableEq κ] {k : κ} {v : ν}

/-- A full cache gives up the one entry that the choice falls on. -/
theorem Sound.shrink_of_full (h : c.Sound) (hfull : c.items.length = c.capacity) {i : Nat} (hi : i < c.items.length)
    (hchoice : choose c.items % c.items.length = i) {n : Nat} (hn : 0 < n) :
    c.shrink choose n = { c with items := eraseKey c.items[i].1 c.items } := by
  have hlength := length_eraseIdx_mod c.items (choose c.items)
  rw [hchoice] at hlength
  cases n with
  | zero => cases hn
  | succ n =>
    rw [shrink, if_neg (by omega), hchoice, shrink_of_fits (by simp only [hlength]; omega),
      eraseIdx_eq_eraseKey h.nodup hi]

/-! ## Adding entries -/

theorem contains_iff : c.contains k = true ↔ k ∈ c.items.map Prod.fst := isSome_lookup_iff

theorem add_of_contains (hk : c.contains k = true) : c.add choose k v = c := if_pos hk

theorem Sound.get?_of_zero (h : c.Sound) (hzero : c.capacity = 0) (k : κ) : c.get? k = none := by
  rw [get?, h.items_of_zero hzero, List.lookup_nil]

/-- Nothing is put where there is no room for anything. -/
theorem Sound.add_of_zero (h : c.Sound) (hzero : c.capacity = 0) : c.add choose k v = c := by
  unfold add
  split
  · rfl
  · rw [h.items_of_zero hzero]
    exact if_pos hzero

/-- Room is made for a new key, and its entry is put in. -/
theorem add_of_not_contains (hk : c.contains k = false) (hpos : 0 < c.capacity) {items : List (κ × ν)}
    (hshrink : c.shrink choose c.items.length = { c with items := items }) :
    c.add choose k v = { c with items := (k, v) :: items } := by
  have hne : c.capacity ≠ 0 := Nat.ne_of_gt hpos
  rw [add, hk, hshrink]
  exact if_neg hne

theorem get?_cons (c : RandomCache κ ν) (k : κ) (v : ν) (items : List (κ × ν)) (k' : κ) :
    ({ c with items := (k, v) :: items } : RandomCache κ ν).get? k' = if k' = k then some v else items.lookup k' :=
  Fields.lookup_cons k v items k'

/-- The entries that stay when at most one goes. -/
def rest (gone : Option κ) (items : List (κ × ν)) : List (κ × ν) := gone.elim items fun k₀ => eraseKey k₀ items

theorem lookup_rest (gone : Option κ) (items : List (κ × ν)) (k' : κ) :
    (rest gone items).lookup k' = if gone = some k' then none else items.lookup k' := by
  cases gone with
  | none => rfl
  | some k₀ =>
    rw [rest, Option.elim_some, lookup_eraseKey]
    by_cases hk : k' = k₀ <;> simp [hk, eq_comm]

/-- A new key goes in, and one of the others goes just if the cache was full. -/
theorem Sound.exists_gone (h : c.Sound) (hk : c.contains k = false) (hpos : 0 < c.capacity)
    (choose : List (κ × ν) → Nat) (v : ν) :
    ∃ gone : Option κ, (gone.isSome = true ↔ c.items.length = c.capacity) ∧
      (∀ k₀, gone = some k₀ → c.contains k₀ = true) ∧
      c.add choose k v = { c with items := (k, v) :: rest gone c.items } := by
  by_cases hfull : c.items.length = c.capacity
  · have hlt : choose c.items % c.items.length < c.items.length := Nat.mod_lt _ (by omega)
    have hshrink := h.shrink_of_full hfull hlt rfl (hfull ▸ hpos)
    refine ⟨some c.items[choose c.items % c.items.length].1, iff_of_true rfl hfull, ?_,
      add_of_not_contains hk hpos hshrink⟩
    intro k₀ hk₀
    cases hk₀
    exact contains_iff.2 (List.mem_map_of_mem (List.getElem_mem hlt))
  · have hfits : c.items.length + 1 ≤ c.capacity := Nat.lt_of_le_of_ne h.fits hfull
    exact ⟨none, iff_of_false nofun hfull, nofun, add_of_not_contains hk hpos (shrink_of_fits hfits _)⟩

/-- The same seen through look-ups. -/
theorem Sound.get?_add (h : c.Sound) (hk : c.contains k = false) (hpos : 0 < c.capacity) (choose : List (κ × ν) → Nat)
    (v : ν) :
    ∃ gone : Option κ, (gone.isSome = true ↔ c.items.length = c.capacity) ∧
      (∀ k₀, gone = some k₀ → c.contains k₀ = true) ∧
      ∀ k', (c.add choose k v).get? k' = if k' = k then some v else if gone = some k' then none else c.get? k' := by
  obtain ⟨gone, hfull, hthere, hadd⟩ := h.exists_gone hk hpos choose v
  refine ⟨gone, hfull, hthere, fun k' => ?_⟩
  rw [hadd, get?_cons, lookup_rest]
  rfl

/-- What is found after an addition was added just now or was found before. -/
theorem Sound.found_after_add {k' : κ} {v' : ν} (h : c.Sound) (hfound : (c.add choose k' v').get? k = some v) :
    (0 < c.capacity ∧ c.contains k' = false ∧ k' = k ∧ v' = v) ∨ c.get? k = some v := by
  cases hk' : c.contains k' with
  | true =>
    rw [add_of_contains hk'] at hfound
    exact Or.inr hfound
  | false =>
    rcases Nat.eq_zero_or_pos c.capacity with hzero | hpos
    · rw [h.add_of_zero hzero] at hfound
      exact Or.inr hfound
    · obtain ⟨gone, -, -, hget⟩ := h.get?_add hk' hpos choose v'
      rw [hget k] at hfound
      by_cases hk : k = k'
      · rw [if_pos hk] at hfound
        exact Or.inl ⟨hpos, rfl, hk.symm, Option.some.inj hfound⟩
      · rw [if_neg hk] at hfound
        split at hfound
        · cases hfound
        · exact Or.inr hfound

/-- Each entry of a full cache goes by some choice. -/
theorem Sound.exists_choice (h : c.Sound) (hk : c.contains k = false) (hfull : c.items.length = c.capacity) {k₀ : κ}
    (hk₀ : c.contains k₀ = true) (v : ν) :
    ∃ choose : List (κ × ν) → Nat, (c.add choose k v).get? k₀ = none := by
  have hne : k₀ ≠ k := by
    rintro rfl
    exact absurd (hk₀.symm.trans hk) (by decide)
  obtain ⟨e, he, rfl⟩ := List.mem_map.1 (contains_iff.1 hk₀)
  obtain ⟨i, hi, rfl⟩ := List.getElem_of_mem he
  have hpos : 0 < c.items.length := Nat.lt_of_le_of_lt (Nat.zero_le i) hi
  have hshrink : c.shrink (fun _ => i) c.items.length = { c with items := eraseKey c.items[i].1 c.items } :=
    h.shrink_of_full hfull hi (Nat.mod_eq_of_lt hi) hpos
  refine ⟨fun _ => i, ?_⟩
  rw [add_of_not_contains hk (hfull ▸ hpos) hshrink, get?_cons, if_neg hne, lookup_eraseKey, if_pos rfl]

@[simp] theorem capacity_add (choose : List (κ × ν) → Nat) (c : RandomCache κ ν) (k : κ) (v : ν) :
    (c.add choose k v).capacity = c.capacity := by
  unfold add
  split
  · rfl
  · simp only [apply_ite RandomCache.capacity, capacity_shrink, ite_self]

/-- An addition keeps a cache sound. -/
theorem Sound.add (h : c.Sound) (choose : List (κ × ν) → Nat) (k : κ) (v : ν) : (c.add choose k v).Sound := by
  cases hk : c.contains k with
  | true => rwa [add_of_contains hk]
  | false =>
    rcases Nat.eq_zero_or_pos c.capacity with hzero | hpos
    · rwa [h.add_of_zero hzero]
    · rw [add_of_not_contains hk hpos (shrink_eq choose c.items.length c)]
      have hkeys := (shrink_sublist choose c.items.length c).map Prod.fst
      have hnot : k ∉ c.items.map Prod.fst := by rw [← contains_iff, hk]; exact Bool.false_ne_true
      have hlength : (c.shrink choose c.items.length).items.length = min c.items.length (c.capacity - 1) :=
        length_shrink (Nat.le_refl _)
      refine ⟨List.nodup_cons.2 ⟨fun hmem => hnot (hkeys.mem hmem), hkeys.nodup h.nodup⟩, ?_⟩
      simp only [List.length_cons, hlength]
      omega

end RandomCache

/-! ## Runs -/

/-- An operation with its choice of the entries that go. -/
abbrev RandomOp (κ ν : Type) : Type := (List (κ × ν) → Nat) × CacheOp κ ν

namespace Cache

variable [DecidableEq κ]

/-- The cache of random replacement after operations. -/
def runRandom (capacity : Nat) (ops : List (RandomOp κ ν)) : Cache κ ν :=
  ops.foldl (fun c o => c.step o.1 o.2) (ofSpec ⟨.rr, capacity⟩)

/-- The last addition of the key that found it absent, and room for entries at all, came with the value. -/
inductive LastAdded (capacity : Nat) : List (RandomOp κ ν) → κ → ν → Prop
  | added {ops : List (RandomOp κ ν)} {choose : List (κ × ν) → Nat} {k : κ} {v : ν} : 0 < capacity →
      (runRandom capacity ops).contains k = false → LastAdded capacity (ops ++ [(choose, .add k v)]) k v
  | later {ops : List (RandomOp κ ν)} {choose : List (κ × ν) → Nat} {op : CacheOp κ ν} {k : κ} {v : ν} :
      LastAdded capacity ops k v → (∀ v', op = .add k v' → (runRandom capacity ops).contains k = true) →
      LastAdded capacity (ops ++ [(choose, op)]) k v

variable {capacity : Nat} {ops : List (RandomOp κ ν)} {choose : List (κ × ν) → Nat} {op : CacheOp κ ν} {k : κ} {v : ν}

theorem runRandom_concat : runRandom capacity (ops ++ [(choose, op)]) = (runRandom capacity ops).step choose op := by
  rw [runRandom, runRandom, List.foldl_append, List.foldl_cons, List.foldl_nil]

theorem lastAdded_concat_iff : LastAdded capacity (ops ++ [(choose, op)]) k v ↔
    (0 < capacity ∧ (runRandom capacity ops).contains k = false ∧ op = .add k v) ∨
      LastAdded capacity ops k v ∧ ∀ v', op = .add k v' → (runRandom capacity ops).contains k = true := by
  constructor
  · generalize hops : ops ++ [(choose, op)] = ops'
    intro h
    cases h with
    | added hpos hk =>
      obtain ⟨rfl, hop⟩ := List.append_inj' hops rfl
      cases hop
      exact Or.inl ⟨hpos, hk, rfl⟩
    | later hlast hk =>
      obtain ⟨rfl, hop⟩ := List.append_inj' hops rfl
      cases hop
      exact Or.inr ⟨hlast, hk⟩
  · rintro (⟨hpos, hk, rfl⟩ | ⟨hlast, hk⟩)
    · exact .added hpos hk
    · exact hlast.later hk

theorem not_lastAdded_nil : ¬LastAdded capacity ([] : List (RandomOp κ ν)) k v := by
  generalize hops : [] = ops
  intro h
  cases h with
  | added => exact absurd hops.symm (List.append_ne_nil_of_right_ne_nil _ (List.cons_ne_nil _ _))
  | later => exact absurd hops.symm (List.append_ne_nil_of_right_ne_nil _ (List.cons_ne_nil _ _))

/-- There is one last addition. -/
theorem LastAdded.unique {v' : ν} (h : LastAdded capacity ops k v) (h' : LastAdded capacity ops k v') : v = v' := by
  induction ops using List.reverseRecOn with
  | nil => exact absurd h not_lastAdded_nil
  | append_singleton ops o ih =>
    obtain ⟨choose, op⟩ := o
    -- The last operation is the addition of both or of neither, since only one that finds the key absent counts.
    rcases lastAdded_concat_iff.1 h with ⟨-, hk, rfl⟩ | ⟨hlast, hk⟩
    · rcases lastAdded_concat_iff.1 h' with ⟨-, -, heq⟩ | ⟨-, hk'⟩
      · cases heq
        rfl
      · exact absurd (hk.symm.trans (hk' _ rfl)) Bool.false_ne_true
    · rcases lastAdded_concat_iff.1 h' with ⟨-, hk', rfl⟩ | ⟨hlast', -⟩
      · exact absurd (hk'.symm.trans (hk _ rfl)) Bool.false_ne_true
      · exact ih hlast hlast'

/-- A run leads to a sound cache of the given size. -/
theorem exists_runRandom (capacity : Nat) (ops : List (RandomOp κ ν)) :
    ∃ c : RandomCache κ ν, runRandom capacity ops = .random c ∧ c.capacity = capacity ∧ c.Sound := by
  induction ops using List.reverseRecOn with
  | nil => exact ⟨{ capacity := capacity }, rfl, rfl, List.nodup_nil, Nat.zero_le _⟩
  | append_singleton ops o ih =>
    obtain ⟨choose, op⟩ := o
    obtain ⟨c, hc, hcapacity, hsound⟩ := ih
    rw [runRandom_concat, hc]
    cases op with
    | add k v =>
      have hkept : (c.add choose k v).capacity = capacity := (RandomCache.capacity_add choose c k v).trans hcapacity
      exact ⟨c.add choose k v, rfl, hkept, hsound.add choose k v⟩
    | get k => exact ⟨c, rfl, hcapacity, hsound⟩

/-- What is found came with the last addition of its key. -/
theorem lastAdded_of_get (h : ((runRandom capacity ops).get k).1 = some v) : LastAdded capacity ops k v := by
  induction ops using List.reverseRecOn with
  | nil => cases h
  | append_singleton ops o ih =>
    obtain ⟨choose, op⟩ := o
    obtain ⟨c, hc, hcapacity, hsound⟩ := exists_runRandom capacity ops
    rw [runRandom_concat, hc] at h
    rw [hc] at ih
    cases op with
    | get k' => exact (ih h).later nofun
    | add k' v' =>
      rcases hsound.found_after_add h with ⟨hpos, hk', rfl, rfl⟩ | hfound
      · exact .added (hcapacity ▸ hpos) (hc ▸ hk')
      · have hthere : (Cache.random c).contains k = true := Option.isSome_iff_exists.2 ⟨v, hfound⟩
        exact (ih hfound).later fun _ _ => hc ▸ hthere

/-- What random replacement guarantees of the cache after any operations. -/
structure ReplacesSafely (capacity : Nat) (ops : List (RandomOp κ ν)) (c : Cache κ ν) : Prop where
  size_le : c.size ≤ capacity
  get_keeps : ∀ k, (c.get k).2 = c
  add_present : ∀ choose k v, c.contains k = true → c.add choose k v = c
  /-- A new key is found with its value, and all others as before but for the one that goes if the cache was full. -/
  add_new : 0 < capacity → ∀ choose k v, c.contains k = false →
    ∃ gone : Option κ, (gone.isSome = true ↔ c.size = capacity) ∧ (∀ k₀, gone = some k₀ → c.contains k₀ = true) ∧
      ∀ k', ((c.add choose k v).get k').1 = if k' = k then some v else if gone = some k' then none else (c.get k').1
  any_may_go : c.size = capacity → ∀ k v k₀, c.contains k = false → c.contains k₀ = true →
    ∃ choose, ((c.add choose k v).get k₀).1 = none
  empty_of_zero : capacity = 0 → ∀ k, c.contains k = false
  last_added : ∀ k v, (c.get k).1 = some v → ∀ v', LastAdded capacity ops k v' ↔ v' = v

/-- **Random replacement is safe for every choice of the entries that go.** -/
theorem runRandom_safe (capacity : Nat) (ops : List (RandomOp κ ν)) :
    ReplacesSafely capacity ops (runRandom capacity ops) := by
  have hlast : ∀ k v, ((runRandom capacity ops).get k).1 = some v → ∀ v', LastAdded capacity ops k v' ↔ v' = v := by
    intro k v hfound v'
    have hadded := lastAdded_of_get hfound
    exact ⟨fun hadded' => hadded'.unique hadded, fun heq => heq ▸ hadded⟩
  obtain ⟨c, hc, hcapacity, hsound⟩ := exists_runRandom capacity ops
  rw [hc] at hlast ⊢
  subst hcapacity
  refine ⟨hsound.fits, fun _ => rfl, fun choose k v hk => ?present, fun hpos choose k v hk => ?new,
    fun hfull k v k₀ hk hk₀ => ?anyMayGo, fun hzero k => ?zero, hlast⟩
  case present => exact congrArg Cache.random (RandomCache.add_of_contains hk)
  case new => exact hsound.get?_add hk hpos choose v
  case anyMayGo => exact hsound.exists_choice hk hfull hk₀ v
  case zero => exact Option.isSome_eq_false_iff.2 (Option.isNone_iff_eq_none.2 (hsound.get?_of_zero hzero k))

/-- Of two entries the first put in goes for a third, by a choice that counts from the other end. -/
example :
    let c : Cache String Nat :=
      runRandom 2 [(fun _ => 0, .add "a" 1), (fun _ => 0, .add "b" 2), (fun _ => 3, .add "c" 3)]
    (c.get "a").1 = none ∧ (c.get "b").1 = some 2 ∧ (c.get "c").1 = some 3 ∧ c.size = 2 := by decide

end Cache

end TaskFlow
