/-!
# Reachability

- `gather next remaining pending`: what can be reached from the pending items by steps of `next` without leaving
  the remaining ones. Each item taken leaves the remaining ones, so the search ends;
- `mem_of_mem_gather`: nothing else is found.
-/

namespace TaskFlow

variable {α : Type} [DecidableEq α] {remaining pending rest : List α} {a : α}

theorem mem_of_dropWhile_eq_cons (h : pending.dropWhile (· ∉ remaining) = a :: rest) : a ∈ remaining := by
  have hstops := List.head?_dropWhile_not (fun b => decide (b ∉ remaining)) pending
  rw [h] at hstops
  simpa using hstops

/-- The items reached, each once. -/
def gather (next : α → List α) (remaining pending : List α) : List α :=
  -- what was taken before no longer remains and is passed over
  match _ : pending.dropWhile (· ∉ remaining) with
  | [] => []
  | a :: rest => a :: gather next (remaining.erase a) (next a ++ rest)
termination_by remaining.length
decreasing_by
  rename_i hfirst
  have hmem := mem_of_dropWhile_eq_cons hfirst
  have := List.length_erase_of_mem hmem
  have := List.length_pos_of_mem hmem
  omega

theorem mem_of_mem_gather {next : α → List α} (h : a ∈ gather next remaining pending) : a ∈ remaining := by
  fun_induction gather next remaining pending with
  | case1 => cases h
  | case2 remaining pending b rest hfirst ih =>
    rcases List.mem_cons.1 h with rfl | h
    · exact mem_of_dropWhile_eq_cons hfirst
    · exact List.mem_of_mem_erase (ih h)

end TaskFlow
