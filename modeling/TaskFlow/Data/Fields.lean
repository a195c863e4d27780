/-!
# Key-sorted fields

- `Fields.Sorted`: a list of fields whose keys strictly increase, so each key occurs once;
- `Fields.insert` puts a field in its place and replaces an earlier value of the same key (`lookup_insert`),
  and keeps the order (`Sorted.insert`);
- `Fields.ofList` sorts any list of fields, the last value of a repeated key winning (`sorted_ofList`).
-/

namespace TaskFlow.Fields

variable {α β : Type}

/-- Strictly increasing keys. -/
def Sorted (fs : List (String × α)) : Prop :=
  fs.Pairwise fun a b => a.1 < b.1

instance (fs : List (String × α)) : Decidable (Sorted fs) :=
  inferInstanceAs (Decidable (fs.Pairwise _))

/-- A field in its place; an earlier value of the key is replaced. -/
def insert (k : String) (v : α) : List (String × α) → List (String × α)
  | [] => [(k, v)]
  | (k', v') :: fs =>
    if k < k' then (k, v) :: (k', v') :: fs
    else if k = k' then (k, v) :: fs
    else (k', v') :: insert k v fs

/-- Fields in key order, the last value of a repeated key winning. -/
def ofList (fs : List (String × α)) : List (String × α) :=
  fs.foldl (fun acc f => insert f.1 f.2 acc) []

theorem lt_of_not_lt_of_ne {a b : String} (h : ¬a < b) (hne : a ≠ b) : b < a := by
  rcases Decidable.em (b < a) with hba | hba
  · exact hba
  · exact absurd (String.le_antisymm (String.not_lt.1 hba) (String.not_lt.1 h)) hne

theorem mem_insert {k : String} {v : α} {fs : List (String × α)} {f : String × α} (h : f ∈ insert k v fs) :
    f = (k, v) ∨ f ∈ fs := by
  induction fs with
  | nil => simpa [insert] using h
  | cons g fs ih =>
    obtain ⟨k', v'⟩ := g
    unfold insert at h
    split at h
    · simpa using h
    · split at h
      · rcases List.mem_cons.1 h with h | h
        · exact Or.inl h
        · exact Or.inr (List.mem_cons_of_mem _ h)
      · rcases List.mem_cons.1 h with h | h
        · exact Or.inr (h ▸ List.mem_cons_self)
        · exact (ih h).imp id (List.mem_cons_of_mem _)

theorem sorted_nil : Sorted ([] : List (String × α)) := List.Pairwise.nil

theorem Sorted.insert {fs : List (String × α)} (h : Sorted fs) (k : String) (v : α) :
    Sorted (Fields.insert k v fs) := by
  induction fs with
  | nil => simp [Fields.insert, Sorted]
  | cons g fs ih =>
    obtain ⟨k', v'⟩ := g
    have ⟨hhead, htail⟩ := List.pairwise_cons.1 h
    unfold Fields.insert
    split
    · rename_i hk
      refine List.pairwise_cons.2 ⟨fun f hf => ?_, h⟩
      rcases List.mem_cons.1 hf with rfl | hf
      · exact hk
      · exact String.lt_trans hk (hhead f hf)
    · rename_i hk
      split
      · rename_i he
        exact List.pairwise_cons.2 ⟨fun f hf => he ▸ hhead f hf, htail⟩
      · rename_i he
        refine List.pairwise_cons.2 ⟨fun f hf => ?_, ih htail⟩
        rcases mem_insert hf with rfl | hf
        · exact lt_of_not_lt_of_ne hk he
        · exact hhead f hf

theorem sorted_foldl_insert (gs : List (String × α)) {fs : List (String × α)} (h : Sorted fs) :
    Sorted (gs.foldl (fun acc f => Fields.insert f.1 f.2 acc) fs) := by
  induction gs generalizing fs with
  | nil => exact h
  | cons g gs ih => exact ih (h.insert g.1 g.2)

theorem sorted_ofList (fs : List (String × α)) : Sorted (ofList fs) :=
  sorted_foldl_insert fs sorted_nil

theorem lookup_cons {κ : Type} [DecidableEq κ] (k : κ) (v : α) (fs : List (κ × α)) (a : κ) :
    ((k, v) :: fs).lookup a = if a = k then some v else fs.lookup a := by
  by_cases h : a = k
  · simp [h]
  · have hb : (a == k) = false := by simp [h]
    simp [List.lookup_cons, hb, h]

theorem lookup_insert (k : String) (v : α) (fs : List (String × α)) (a : String) :
    (insert k v fs).lookup a = if a = k then some v else fs.lookup a := by
  induction fs with
  | nil => exact lookup_cons k v [] a
  | cons g fs ih =>
    obtain ⟨k', v'⟩ := g
    unfold insert
    split
    · simp only [lookup_cons]
    · split
      · rename_i he
        subst he
        simp only [lookup_cons]
        split <;> rfl
      · rename_i he
        simp only [lookup_cons, ih]
        by_cases h : a = k'
        · subst h
          simp [Ne.symm he]
        · simp [h]

/-- Values changed in place keep the keys, hence the order. -/
theorem Sorted.map {fs : List (String × α)} (h : Sorted fs) (f : String → α → β) :
    Sorted (fs.map fun e => (e.1, f e.1 e.2)) :=
  List.pairwise_map.2 (h.imp id)

end TaskFlow.Fields
