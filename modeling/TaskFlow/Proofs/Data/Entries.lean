import Mathlib.Data.List.Nodup
import Mathlib.Data.List.Perm.Basic

/-!
# Entries through look-up

- `mem_iff_lookup`: entries without a repeated key are just what look-up finds, so their order does not matter
  (`lookup_perm`);
- `isSome_lookup_iff`, `exists_split_of_lookup`: what is found stands among the entries, repeated keys or not;
- `lookup_map_values`: entries with other values are found in the same places.
-/

namespace TaskFlow

variable {κ ν : Type} [DecidableEq κ] {es es' : List (κ × ν)} {k : κ} {v : ν}

theorem isSome_lookup_iff : (es.lookup k).isSome = true ↔ k ∈ es.map Prod.fst := by
  rw [List.lookup_isSome_iff, List.mem_map]
  exact exists_congr fun e => and_congr_right fun _ => by rw [beq_iff_eq, eq_comm]

theorem lookup_eq_none_iff_notMem : es.lookup k = none ↔ k ∉ es.map Prod.fst := by
  rw [← isSome_lookup_iff, Bool.not_eq_true, Option.isSome_eq_false_iff, Option.isNone_iff_eq_none]

theorem mem_iff_lookup (h : (es.map Prod.fst).Nodup) : (k, v) ∈ es ↔ es.lookup k = some v := by
  rw [List.lookup_eq_some_iff]
  constructor
  · intro hmem
    obtain ⟨before, after, rfl⟩ := List.append_of_mem hmem
    refine ⟨before, after, rfl, fun e he => ?_⟩
    have hne : e.1 ≠ k := by
      intro heq
      rw [List.map_append, List.nodup_append] at h
      exact h.2.2 e.1 (List.mem_map_of_mem he) k (by simp) heq
    exact bne_iff_ne.2 hne.symm
  · rintro ⟨before, after, rfl, -⟩
    simp

/-- Look-up does not depend on the order of the entries. -/
theorem lookup_perm (hperm : es.Perm es') (h : (es.map Prod.fst).Nodup) : es.lookup k = es'.lookup k := by
  have h' : (es'.map Prod.fst).Nodup := (hperm.map Prod.fst).nodup_iff.1 h
  apply Option.ext
  intro v
  rw [← mem_iff_lookup h, ← mem_iff_lookup h', hperm.mem_iff]

theorem exists_split_of_lookup (h : es.lookup k = some v) : ∃ before after, es = before ++ (k, v) :: after := by
  obtain ⟨before, after, heq, -⟩ := List.lookup_eq_some_iff.1 h
  exact ⟨before, after, heq⟩

theorem lookup_map_values {ν' : Type} (f : ν → ν') (es : List (κ × ν)) (k : κ) :
    (es.map fun e => (e.1, f e.2)).lookup k = (es.lookup k).map f := by
  induction es with
  | nil => rfl
  | cons e es ih =>
    obtain ⟨k', v⟩ := e
    rw [List.map_cons, List.lookup_cons, List.lookup_cons, ih]
    cases k == k' <;> rfl

end TaskFlow
