import Mathlib.Data.List.TakeWhile
import Mathlib.Data.Set.Finite.List
import Mathlib.Logic.Relation
import TaskFlow.Data.Reach

/-!
# The search finds what can be reached

- `Leads next within a b`: steps of `next` lead from `a` to `b`, all of them to items within a list;
- `mem_gather_iff`: the items gathered are just those to which the pending ones lead;
- `mem_gather_iff_of_closed`: within a list that no step leaves, the list drops out of the statement;
- `nodup_gather`: no item is gathered twice;
- `exists_circle`: steps that lead on from every one of finitely many items lead into a circle.
-/

namespace TaskFlow

variable {α : Type} {next : α → List α} {within remaining pending : List α} {a b : α}

/-- Steps to items of a list that lead from one item to another. -/
def Leads (next : α → List α) (within : List α) : α → α → Prop :=
  Relation.ReflTransGen fun a b => b ∈ next a ∧ b ∈ within

theorem Leads.mono {within' : List α} (h : Leads next within a b) (hsub : ∀ x ∈ within, x ∈ within') :
    Leads next within' a b :=
  Relation.ReflTransGen.mono (fun _ _ ⟨hstep, hmem⟩ => ⟨hstep, hsub _ hmem⟩) _ _ h

/-- Where only items of a list can be reached, and a step leads on from each of them, steps lead into a circle. -/
theorem exists_circle {r : α → α → Prop} (hwithin : ∀ b, Relation.ReflTransGen r a b → b ∈ within)
    (hstep : ∀ b, Relation.ReflTransGen r a b → ∃ c, r b c) :
    ∃ b, Relation.ReflTransGen r a b ∧ Relation.TransGen r b b := by
  by_contra hnone
  -- without a circle the steps are well-founded on the finitely many items reached, so one of them is the last
  have : Finite {b // Relation.ReflTransGen r a b} := (within.finite_toSet.subset hwithin).to_subtype
  let after (c b : {b // Relation.ReflTransGen r a b}) : Prop := Relation.TransGen r b.1 c.1
  have : IsTrans _ after := ⟨fun _ _ _ hcb hdc => hdc.trans hcb⟩
  have : Std.Irrefl after := ⟨fun b hb => hnone ⟨b.1, b.2, hb⟩⟩
  obtain ⟨b, -, hlast⟩ := (Finite.wellFounded_of_trans_of_irrefl after).has_min Set.univ ⟨⟨a, .refl⟩, trivial⟩
  obtain ⟨c, hbc⟩ := hstep b.1 b.2
  exact hlast ⟨c, b.2.tail hbc⟩ trivial (.single hbc)

variable [DecidableEq α]

/-- A pending item that remains is not passed over. -/
theorem mem_dropWhile_of_mem (hpending : a ∈ pending) (hremaining : a ∈ remaining) :
    a ∈ pending.dropWhile (· ∉ remaining) := by
  rw [← List.takeWhile_append_dropWhile (p := (· ∉ remaining)) (l := pending), List.mem_append] at hpending
  refine hpending.resolve_left fun hpassed => ?_
  have hgone : a ∉ remaining := by simpa using List.mem_takeWhile_imp hpassed
  exact hgone hremaining

/-- Pending items that remain are gathered. -/
theorem mem_gather_of_pending (hpending : a ∈ pending) (hremaining : a ∈ remaining) :
    a ∈ gather next remaining pending := by
  fun_induction gather next remaining pending with
  | case1 remaining pending hnone =>
    have hmem := mem_dropWhile_of_mem hpending hremaining
    rw [hnone] at hmem
    cases hmem
  | case2 remaining pending b rest hfirst ih =>
    have hmem := mem_dropWhile_of_mem hpending hremaining
    rw [hfirst, List.mem_cons] at hmem
    rw [List.mem_cons]
    by_cases hab : a = b
    · exact Or.inl hab
    · exact Or.inr (ih (List.mem_append_right _ (hmem.resolve_left hab)) ((List.mem_erase_of_ne hab).2 hremaining))

/-- With an item, the items one step further that remain are gathered. -/
theorem mem_gather_of_next (ha : a ∈ gather next remaining pending) (hstep : b ∈ next a) (hb : b ∈ remaining) :
    b ∈ gather next remaining pending := by
  fun_induction gather next remaining pending with
  | case1 => cases ha
  | case2 remaining pending c rest hfirst ih =>
    rw [List.mem_cons] at ha ⊢
    by_cases hbc : b = c
    · exact Or.inl hbc
    · have hb' : b ∈ remaining.erase c := (List.mem_erase_of_ne hbc).2 hb
      right
      rcases ha with rfl | ha
      · exact mem_gather_of_pending (List.mem_append_left _ hstep) hb'
      · exact ih ha hb'

/-- **The search is exact**: the items gathered are those to which pending items lead within the remaining ones. -/
theorem mem_gather_iff :
    b ∈ gather next remaining pending ↔ ∃ a ∈ pending, a ∈ remaining ∧ Leads next remaining a b := by
  constructor
  · intro h
    fun_induction gather next remaining pending with
    | case1 => cases h
    | case2 remaining pending c rest hfirst ih =>
      have hsub : ∀ x ∈ c :: rest, x ∈ pending := fun x hx =>
        (List.dropWhile_sublist (· ∉ remaining)).subset (hfirst ▸ hx)
      have hc : c ∈ pending := hsub c List.mem_cons_self
      have hremains : c ∈ remaining := mem_of_dropWhile_eq_cons hfirst
      rcases List.mem_cons.1 h with rfl | h
      · exact ⟨b, hc, hremains, .refl⟩
      · obtain ⟨a, ha, hmem, hleads⟩ := ih h
        have hleads' : Leads next remaining a b := hleads.mono fun _ hx => List.mem_of_mem_erase hx
        rcases List.mem_append.1 ha with ha | ha
        · exact ⟨c, hc, hremains, .head ⟨ha, List.mem_of_mem_erase hmem⟩ hleads'⟩
        · exact ⟨a, hsub a (List.mem_cons_of_mem _ ha), List.mem_of_mem_erase hmem, hleads'⟩
  · rintro ⟨a, ha, hmem, hleads⟩
    induction hleads with
    | refl => exact mem_gather_of_pending ha hmem
    | tail _ hstep ih => exact mem_gather_of_next ih hstep.1 hstep.2

/-- Where no step leaves the remaining items, the search is exact without regard to them. -/
theorem mem_gather_iff_of_closed (hclosed : ∀ x ∈ remaining, ∀ y ∈ next x, y ∈ remaining)
    (hpending : ∀ x ∈ pending, x ∈ remaining) :
    b ∈ gather next remaining pending ↔ ∃ a ∈ pending, Relation.ReflTransGen (fun x y => y ∈ next x) a b := by
  rw [mem_gather_iff]
  constructor
  · rintro ⟨a, ha, -, hleads⟩
    exact ⟨a, ha, Relation.ReflTransGen.mono (fun _ _ h => h.1) _ _ hleads⟩
  · rintro ⟨a, ha, hpath⟩
    have hboth : Leads next remaining a b ∧ b ∈ remaining := by
      induction hpath with
      | refl => exact ⟨.refl, hpending a ha⟩
      | tail _ hstep ih =>
        have hmem := hclosed _ ih.2 _ hstep
        exact ⟨.tail ih.1 ⟨hstep, hmem⟩, hmem⟩
    exact ⟨a, ha, hpending a ha, hboth.1⟩

theorem nodup_gather (h : remaining.Nodup) : (gather next remaining pending).Nodup := by
  fun_induction gather next remaining pending with
  | case1 => exact List.nodup_nil
  | case2 remaining pending b rest hfirst ih =>
    exact List.nodup_cons.2 ⟨fun hmem => h.not_mem_erase (mem_of_mem_gather hmem), ih (h.erase b)⟩

end TaskFlow
