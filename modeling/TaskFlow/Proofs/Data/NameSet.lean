import Mathlib.Data.List.Perm.Subperm
import TaskFlow.Data.NameSet

/-!
# Sets of names by their members

- `nodup_cons_unseen_iff`: the step of every check that goes through a list and keeps what it has seen;
- `NameSet.ext_mem`: sets with the same members are equal, since both lists are in order;
- `a ⊆ b`, with `size_le_length` for sets inside a list and `size_insert` for one more name;
- `exists_insert`: a set that is not empty is a smaller one with a name added, the shape of inductions over sets.
-/

namespace TaskFlow

/-- Keys are distinct and unseen just if the first one is unseen, and so are the others once it is seen. -/
theorem nodup_cons_unseen_iff {α : Type} {k : α} {ks seen : List α} :
    ((k :: ks).Nodup ∧ ∀ x ∈ k :: ks, x ∉ seen) ↔ k ∉ seen ∧ ks.Nodup ∧ ∀ x ∈ ks, x ∉ k :: seen := by
  rw [List.nodup_cons, List.forall_mem_cons]
  simp only [List.mem_cons, not_or]
  constructor
  · rintro ⟨⟨hk, hnodup⟩, hseen, hnew⟩
    exact ⟨hseen, hnodup, fun x hx => ⟨fun heq => hk (heq ▸ hx), hnew x hx⟩⟩
  · rintro ⟨hseen, hnodup, hnew⟩
    exact ⟨⟨fun hk => (hnew k hk).1 rfl, hnodup⟩, hseen, fun x hx => (hnew x hx).2⟩

namespace NameSet

variable {s t : NameSet} {x y : String}

theorem nodup (s : NameSet) : s.names.Nodup := s.sorted.imp fun h => String.ne_of_lt h

theorem ext_mem (h : ∀ x, x ∈ s ↔ x ∈ t) : s = t := by
  have hp : s.names.Perm t.names := (List.perm_ext_iff_of_nodup s.nodup t.nodup).2 h
  exact ext (hp.eq_of_pairwise (fun a b _ _ hab hba => absurd (String.lt_trans hab hba) (String.lt_irrefl a))
    s.sorted t.sorted)

@[simp] theorem contains_iff : s.contains x = true ↔ x ∈ s := decide_eq_true_iff

@[simp] theorem contains_eq_false_iff : s.contains x = false ↔ x ∉ s := decide_eq_false_iff_not

theorem notMem_empty : x ∉ empty := List.not_mem_nil

theorem eq_empty_iff : s = empty ↔ ∀ x, x ∉ s :=
  ⟨fun h _ => h ▸ notMem_empty, fun h => ext_mem fun x => iff_of_false (h x) notMem_empty⟩

theorem ne_empty_iff : s ≠ empty ↔ ∃ x, x ∈ s := by
  rw [Ne, eq_empty_iff]
  push Not
  rfl

theorem insert_ne_empty (s : NameSet) (x : String) : s.insert x ≠ empty := ne_empty_iff.2 ⟨x, mem_insert.2 (Or.inl rfl)⟩

theorem mem_singleton : y ∈ ofList [x] ↔ y = x := by rw [mem_ofList, List.mem_singleton]

@[simp] theorem ofList_names (s : NameSet) : ofList s.names = s := ext_mem fun _ => mem_ofList

theorem ofList_congr {xs ys : List String} (h : ∀ x, x ∈ xs ↔ x ∈ ys) : ofList xs = ofList ys :=
  ext_mem fun x => by rw [mem_ofList, mem_ofList, h x]

theorem ofList_eq_empty_iff {xs : List String} : ofList xs = empty ↔ xs = [] := by
  simp only [eq_empty_iff, List.eq_nil_iff_forall_not_mem, mem_ofList]

theorem ofList_perm {xs ys : List String} (h : xs.Perm ys) : ofList xs = ofList ys := ofList_congr fun _ => h.mem_iff

/-- No name is repeated just if none occurs twice, be it among those seen. -/
theorem repeated?_eq_none_iff {seen names : List String} :
    repeated? seen names = none ↔ names.Nodup ∧ ∀ x ∈ names, x ∉ seen := by
  induction names generalizing seen with
  | nil => exact iff_of_true rfl ⟨List.nodup_nil, nofun⟩
  | cons name names ih =>
    rw [repeated?, nodup_cons_unseen_iff]
    by_cases hseen : name ∈ seen
    · rw [if_pos (List.contains_iff_mem.2 hseen)]
      exact iff_of_false nofun fun h => h.1 hseen
    · rw [if_neg fun h => hseen (List.contains_iff_mem.1 h), ih]
      exact (and_iff_right hseen).symm

theorem insert_empty (x : String) : empty.insert x = ofList [x] := rfl

/-! ## Inclusion and size -/

instance : HasSubset NameSet := ⟨fun s t => ∀ x ∈ s, x ∈ t⟩

instance : Decidable (s ⊆ t) := inferInstanceAs (Decidable (∀ x ∈ s.names, x ∈ t))

theorem subset_insert (s : NameSet) (x : String) : s ⊆ s.insert x := fun _ hy => mem_insert.2 (Or.inr hy)

theorem size_eq_zero_iff : s.size = 0 ↔ s = empty := by
  rw [size, List.length_eq_zero_iff]
  exact ⟨fun h => ext h, fun h => h ▸ rfl⟩

/-- The names of a set with one more, up to their order. -/
theorem names_insert_perm (h : x ∉ s) : (s.insert x).names.Perm (x :: s.names) := by
  refine (List.perm_ext_iff_of_nodup (nodup _) (List.nodup_cons.2 ⟨h, s.nodup⟩)).2 fun y => ?_
  rw [List.mem_cons]
  exact mem_insert

theorem size_insert (h : x ∉ s) : (s.insert x).size = s.size + 1 := (names_insert_perm h).length_eq

theorem size_pos_iff : 0 < s.size ↔ s ≠ empty := by
  rw [Nat.pos_iff_ne_zero, Ne, size_eq_zero_iff]

/-- A set inside a list is no larger than the list. -/
theorem size_le_length {xs : List String} (h : ∀ x ∈ s, x ∈ xs) : s.size ≤ xs.length :=
  (s.nodup.subperm h).length_le

/-! ## One name less -/

/-- A set without a name. -/
def erase (s : NameSet) (x : String) : NameSet := s.filter (· ≠ x)

@[simp] theorem mem_filter {p : String → Bool} : x ∈ s.filter p ↔ x ∈ s ∧ p x = true := List.mem_filter

@[simp] theorem mem_erase : y ∈ s.erase x ↔ y ∈ s ∧ y ≠ x := by simp [erase]

theorem insert_erase (h : x ∈ s) : (s.erase x).insert x = s := by
  refine ext_mem fun y => ?_
  rw [mem_insert, mem_erase]
  by_cases hy : y = x
  · simp [hy, h]
  · simp [hy]

/-- A set that is not empty is another one with a name added. -/
theorem exists_insert (h : s ≠ empty) : ∃ (t : NameSet) (x : String), x ∉ t ∧ s = t.insert x := by
  obtain ⟨x, hx⟩ := ne_empty_iff.1 h
  exact ⟨s.erase x, x, by simp, (insert_erase hx).symm⟩

theorem size_eq_one_iff : s.size = 1 ↔ ∃ x, s = ofList [x] := by
  constructor
  · intro hs
    obtain ⟨t, x, hx, rfl⟩ := exists_insert (size_pos_iff.1 (hs ▸ Nat.one_pos))
    rw [size_insert hx] at hs
    have ht : t = empty := size_eq_zero_iff.1 (by omega)
    exact ⟨x, by rw [ht, insert_empty]⟩
  · rintro ⟨x, rfl⟩
    rfl

end NameSet

end TaskFlow
