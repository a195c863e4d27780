import TaskFlow.Data.Dict
import TaskFlow.Proofs.Data.Entries

/-!
# Dictionaries through their entries

- `mem_entries_iff`: the entries are just what `get?` finds, since no key occurs twice;
- `nodup_keys`, `mem_keys_iff`, `mem_values_iff`: keys and values seen the same way; `map_name_values`: the names of
  values that are kept under them are the keys;
- `get?_ofList_eq_some_iff`: a list without repeated keys is looked up as it is; `mem_of_get?_ofList`,
  `mem_keys_ofList`: what is found in a list is one of its items, and every key of the list is found, repeated or not;
- `ofList_entries`: a dictionary is the one of its entries, which are in order (`Fields.ofList_of_sorted`);
- `ofList_perm`: the order of a list without repeated keys does not matter, since a dictionary is what it finds
  (`ext_get?`).
-/

namespace TaskFlow

variable {α β : Type} {k : String} {v : α}

/-- Fields put behind one another, no key twice: what is found is among them, or was there before under another key. -/
theorem Fields.lookup_foldl_insert {gs fs : List (String × α)} (h : (gs.map Prod.fst).Nodup) :
    (gs.foldl (fun acc f => insert f.1 f.2 acc) fs).lookup k = some v ↔
      (k, v) ∈ gs ∨ k ∉ gs.map Prod.fst ∧ fs.lookup k = some v := by
  induction gs generalizing fs with
  | nil => simp
  | cons g gs ih =>
    obtain ⟨k', v'⟩ := g
    rw [List.map_cons, List.nodup_cons] at h
    rw [List.foldl_cons, ih h.2, lookup_insert, List.mem_cons, List.map_cons, List.mem_cons, Prod.mk.injEq]
    by_cases hk : k = k'
    · subst hk
      have hnot : (k, v) ∉ gs := fun hmem => h.1 (List.mem_map.2 ⟨(k, v), hmem, rfl⟩)
      simp [hnot, h.1, eq_comm]
    · simp [hk]

/-- What is found was put in or was there before. -/
theorem Fields.mem_of_lookup_foldl_insert {gs fs : List (String × α)}
    (h : (gs.foldl (fun acc f => insert f.1 f.2 acc) fs).lookup k = some v) : (k, v) ∈ gs ∨ fs.lookup k = some v := by
  induction gs generalizing fs with
  | nil => exact Or.inr h
  | cons g gs ih =>
    rcases ih h with hmem | hlookup
    · exact Or.inl (List.mem_cons_of_mem _ hmem)
    · rw [lookup_insert] at hlookup
      split at hlookup
      · rename_i hk
        cases hlookup
        exact Or.inl (hk ▸ List.mem_cons_self)
      · exact Or.inr hlookup

/-- A key is found just if it was put in or was there before. -/
theorem Fields.isSome_lookup_foldl_insert {gs fs : List (String × α)} :
    ((gs.foldl (fun acc f => insert f.1 f.2 acc) fs).lookup k).isSome = true ↔
      k ∈ gs.map Prod.fst ∨ (fs.lookup k).isSome = true := by
  induction gs generalizing fs with
  | nil => simp
  | cons g gs ih =>
    rw [List.foldl_cons, ih, lookup_insert, List.map_cons, List.mem_cons]
    by_cases hk : k = g.1
    · simp [hk]
    · simp [hk]

/-- A field behind all others stays there. -/
theorem Fields.insert_of_lt {fs : List (String × α)} (h : ∀ f ∈ fs, f.1 < k) : insert k v fs = fs ++ [(k, v)] := by
  induction fs with
  | nil => rfl
  | cons f fs ih =>
    obtain ⟨k', v'⟩ := f
    have hlt : k' < k := h _ List.mem_cons_self
    have hnot : ¬k < k' := fun hk => String.lt_irrefl k (String.lt_trans hk hlt)
    have hne : k ≠ k' := (String.ne_of_lt hlt).symm
    rw [insert, if_neg hnot, if_neg hne, ih fun f hf => h f (List.mem_cons_of_mem _ hf), List.cons_append]

theorem Fields.foldl_insert_of_sorted {fs gs : List (String × α)} (h : Sorted (gs ++ fs)) :
    fs.foldl (fun acc f => insert f.1 f.2 acc) gs = gs ++ fs := by
  induction fs generalizing gs with
  | nil => simp
  | cons f fs ih =>
    have hlt : ∀ g ∈ gs, g.1 < f.1 := fun g hg => (List.pairwise_append.1 h).2.2 g hg f List.mem_cons_self
    rw [List.foldl_cons, insert_of_lt hlt, ih (by simpa using h)]
    simp

theorem Fields.ofList_of_sorted {fs : List (String × α)} (h : Sorted fs) : ofList fs = fs := by
  have hsorted : Sorted ([] ++ fs) := h
  exact foldl_insert_of_sorted hsorted

namespace Dict

variable {d : Dict α}

@[simp] theorem ofList_entries (d : Dict α) : ofList d.entries = d := ext (Fields.ofList_of_sorted d.sorted)

@[simp] theorem contains_empty : (empty : Dict α).contains k = false := rfl

theorem nodup_keys (d : Dict α) : d.keys.Nodup :=
  List.pairwise_map.2 (d.sorted.imp fun h => String.ne_of_lt h)

theorem mem_entries_iff : (k, v) ∈ d.entries ↔ d.get? k = some v := mem_iff_lookup d.nodup_keys

theorem mem_keys_iff : k ∈ d.keys ↔ ∃ v, d.get? k = some v := by
  simp only [keys, List.mem_map, Prod.exists, exists_and_right, exists_eq_right, mem_entries_iff]

theorem mem_values_iff : v ∈ d.values ↔ ∃ k, d.get? k = some v := by
  simp only [values, List.mem_map, Prod.exists, exists_eq_right, mem_entries_iff]

theorem contains_iff : d.contains k = true ↔ ∃ v, d.get? k = some v := Option.isSome_iff_exists

theorem mem_keys_iff_contains : k ∈ d.keys ↔ d.contains k = true := mem_keys_iff.trans contains_iff.symm

/-- Values that are kept under their names have the keys as names. -/
theorem map_name_values {name : α → String} (hnames : ∀ k v, d.get? k = some v → name v = k) :
    d.values.map name = d.keys := by
  rw [values, List.map_map]
  exact List.map_congr_left fun e he => hnames e.1 e.2 (mem_entries_iff.1 he)

theorem contains_insert {k' : String} : (d.insert k v).contains k' = true ↔ k' = k ∨ d.contains k' = true := by
  rw [contains, get?_insert, contains]
  split
  · simp [*]
  · simp [*]

/-- A list without repeated keys is looked up as it is. -/
theorem get?_ofList_eq_some_iff {fs : List (String × α)} (h : (fs.map Prod.fst).Nodup) :
    (ofList fs).get? k = some v ↔ (k, v) ∈ fs := by
  show (fs.foldl (fun acc f => Fields.insert f.1 f.2 acc) []).lookup k = some v ↔ _
  rw [Fields.lookup_foldl_insert h]
  simp

theorem mem_of_get?_ofList {fs : List (String × α)} (h : (ofList fs).get? k = some v) : (k, v) ∈ fs :=
  (Fields.mem_of_lookup_foldl_insert h).resolve_right nofun

/-- Every key of a list is kept, repeated or not. -/
theorem mem_keys_ofList {fs : List (String × α)} : k ∈ (ofList fs).keys ↔ k ∈ fs.map Prod.fst := by
  have hfound : ((ofList fs).get? k).isSome = true ↔ k ∈ fs.map Prod.fst ∨ (([] : List (String × α)).lookup k).isSome :=
    Fields.isSome_lookup_foldl_insert
  rw [mem_keys_iff_contains, contains, hfound]
  simp

/-- Dictionaries that find the same are equal, since both are in order. -/
theorem ext_get? {e : Dict α} (h : ∀ k, d.get? k = e.get? k) : d = e := by
  have hmem : ∀ f : String × α, f ∈ d.entries ↔ f ∈ e.entries := by
    rintro ⟨k, v⟩
    rw [mem_entries_iff, mem_entries_iff, h k]
  have hperm : d.entries.Perm e.entries :=
    (List.perm_ext_iff_of_nodup d.nodup_keys.of_map e.nodup_keys.of_map).2 hmem
  exact ext (hperm.eq_of_pairwise
    (fun _ _ _ _ hab hba => absurd (String.lt_trans hab hba) (String.lt_irrefl _)) d.sorted e.sorted)

theorem ofList_perm {fs gs : List (String × α)} (hperm : fs.Perm gs) (h : (fs.map Prod.fst).Nodup) :
    ofList fs = ofList gs := by
  refine ext_get? fun k => Option.ext fun v => ?_
  rw [get?_ofList_eq_some_iff h, get?_ofList_eq_some_iff ((hperm.map Prod.fst).nodup h), hperm.mem_iff]

/-- Values that are kept under their names, each one replaced. -/
theorem get?_ofList_map_values {name : α → String} (hnames : ∀ k v, d.get? k = some v → name v = k) (f : α → β) :
    (ofList (d.values.map fun v => (name v, f v))).get? k = (d.get? k).map f := by
  have hentries : d.values.map (fun v => (name v, f v)) = d.entries.map fun e => (e.1, f e.2) := by
    rw [values, List.map_map]
    exact List.map_congr_left fun e he => by rw [Function.comp_apply, hnames e.1 e.2 (mem_entries_iff.1 he)]
  have hkeys : ((d.entries.map fun e => (e.1, f e.2)).map Prod.fst).Nodup := by
    rw [List.map_map]
    exact d.nodup_keys
  refine Option.ext fun w => ?_
  rw [hentries, get?_ofList_eq_some_iff hkeys, Option.map_eq_some_iff, List.mem_map]
  constructor
  · rintro ⟨⟨_, v⟩, hmem, heq⟩
    cases heq
    exact ⟨v, mem_entries_iff.1 hmem, rfl⟩
  · rintro ⟨v, hv, rfl⟩
    exact ⟨(k, v), mem_entries_iff.2 hv, rfl⟩

end Dict

end TaskFlow
