import Mathlib.Data.List.Forall2
import TaskFlow.Log.Logged

/-!
# Results taken apart

- one lemma for each way to put results together, all of the form "the whole succeeds with this value just if the
  parts succeed with those": `bind_eq_ok_iff` and `mapM_eq_ok_iff` for plain results, `result_bind_eq_ok_iff`,
  `result_forAll_eq_ok_iff`, `result_attemptAll_eq_ok_iff` and `result_readAll_eq_ok_iff` for those with events;
- `forall₂_getElem?`, `forall₂_of_mem`, `map_eq_map_of_forall₂`: lists that agree item by item.
-/

namespace TaskFlow

/-- Items in the same place of lists that agree item by item. -/
theorem forall₂_getElem? {α β : Type} {R : α → β → Prop} {as : List α} {bs : List β} (h : List.Forall₂ R as bs)
    {i : Nat} {a : α} (ha : as[i]? = some a) : ∃ b, bs[i]? = some b ∧ R a b := by
  induction h generalizing i with
  | nil => cases ha
  | cons hhead _ ih =>
    cases i with
    | zero =>
      cases ha
      exact ⟨_, rfl, hhead⟩
    | succ i => exact ih ha

theorem forall₂_of_mem {α β : Type} {R : α → β → Prop} {as : List α} {bs : List β} (h : List.Forall₂ R as bs) {a : α}
    (ha : a ∈ as) : ∃ b ∈ bs, R a b := by
  obtain ⟨i, hi⟩ := List.mem_iff_getElem?.1 ha
  obtain ⟨b, hb, hR⟩ := forall₂_getElem? h hi
  exact ⟨b, List.mem_of_getElem? hb, hR⟩

theorem exists_forall₂_iff {α β : Type} {R : α → β → Prop} {as : List α} :
    (∃ bs, List.Forall₂ R as bs) ↔ ∀ a ∈ as, ∃ b, R a b := by
  constructor
  · rintro ⟨bs, hbs⟩ a ha
    obtain ⟨b, -, hR⟩ := forall₂_of_mem hbs ha
    exact ⟨b, hR⟩
  · intro h
    induction as with
    | nil => exact ⟨[], .nil⟩
    | cons a as ih =>
      obtain ⟨b, hb⟩ := h a List.mem_cons_self
      obtain ⟨bs, hbs⟩ := ih fun c hc => h c (List.mem_cons_of_mem _ hc)
      exact ⟨b :: bs, .cons hb hbs⟩

theorem map_eq_map_of_forall₂ {α β γ : Type} {f : α → γ} {g : β → γ} {as : List α} {bs : List β}
    (h : List.Forall₂ (fun a b => f a = g b) as bs) : as.map f = bs.map g := by
  induction h with
  | nil => rfl
  | cons hhead _ ih => rw [List.map_cons, List.map_cons, hhead, ih]

/-! ## Plain results -/

namespace Except

variable {ε ε' α β : Type} {m : Except ε α}

theorem bind_eq_ok_iff {f : α → Except ε β} {b : β} : (m >>= f) = .ok b ↔ ∃ a, m = .ok a ∧ f a = .ok b := by
  cases m with
  | error e => exact ⟨nofun, fun ⟨_, h, _⟩ => nomatch h⟩
  | ok a =>
    constructor
    · intro h
      exact ⟨a, rfl, h⟩
    · rintro ⟨_, h, hf⟩
      cases h
      exact hf

theorem map_eq_ok_iff {f : α → β} {b : β} : m.map f = .ok b ↔ ∃ a, m = .ok a ∧ f a = b := by
  cases m with
  | error e => exact ⟨nofun, fun ⟨_, h, _⟩ => nomatch h⟩
  | ok a =>
    constructor
    · intro h
      cases h
      exact ⟨a, rfl, rfl⟩
    · rintro ⟨_, h, rfl⟩
      cases h
      rfl

theorem bind_eq_error_iff {f : α → Except ε β} {e : ε} :
    (m >>= f) = .error e ↔ m = .error e ∨ ∃ a, m = .ok a ∧ f a = .error e := by
  cases m with
  | error e' => exact ⟨fun h => Or.inl (by cases h; rfl), fun h => h.elim (fun h => by cases h; rfl) nofun⟩
  | ok a =>
    constructor
    · intro h
      exact Or.inr ⟨a, rfl, h⟩
    · rintro (h | ⟨_, h, hf⟩)
      · cases h
      · cases h
        exact hf

theorem map_eq_error_iff {f : α → β} {e : ε} : m.map f = .error e ↔ m = .error e := by
  cases m with
  | error e' => exact ⟨fun h => by cases h; rfl, fun h => by cases h; rfl⟩
  | ok a => exact iff_of_false nofun nofun

@[simp] theorem mapError_eq_ok_iff {f : ε → ε'} {a : α} : m.mapError f = .ok a ↔ m = .ok a := by
  cases m with
  | error e => exact ⟨nofun, fun h => nomatch h⟩
  | ok b => exact ⟨fun h => by cases h; rfl, fun h => by cases h; rfl⟩

/-- A check that stands in front passes. -/
theorem ite_error_eq_ok_iff {p : Prop} [Decidable p] {e : ε} {a : α} :
    (if p then .error e else m) = .ok a ↔ ¬p ∧ m = .ok a := by
  by_cases hp : p
  · rw [if_pos hp]
    exact iff_of_false nofun fun h => h.1 hp
  · rw [if_neg hp]
    exact (and_iff_right hp).symm

theorem toOption_eq_some_iff {a : α} : m.toOption = some a ↔ m = .ok a := by
  cases m with
  | error e => exact ⟨nofun, fun h => nomatch h⟩
  | ok b => exact ⟨fun h => by cases h; rfl, fun h => by cases h; rfl⟩

theorem toOption_any_iff {p : α → Bool} : m.toOption.any p = true ↔ ∃ a, m = .ok a ∧ p a = true := by
  cases m with
  | error e => exact ⟨nofun, fun ⟨_, h, _⟩ => nomatch h⟩
  | ok a =>
    constructor
    · intro h
      exact ⟨a, rfl, h⟩
    · rintro ⟨_, h, hp⟩
      cases h
      exact hp

theorem mapM_eq_ok_iff {f : α → Except ε β} {as : List α} {bs : List β} :
    as.mapM f = .ok bs ↔ List.Forall₂ (fun a b => f a = .ok b) as bs := by
  induction as generalizing bs with
  | nil =>
    rw [List.mapM_nil, List.forall₂_nil_left_iff]
    exact ⟨fun h => by cases h; rfl, fun h => by rw [h]; rfl⟩
  | cons a as ih =>
    rw [List.mapM_cons, bind_eq_ok_iff, List.forall₂_cons_left_iff]
    constructor
    · rintro ⟨b, hb, hrest⟩
      obtain ⟨cs, hcs, h⟩ := bind_eq_ok_iff.1 hrest
      cases h
      exact ⟨b, cs, hb, ih.1 hcs, rfl⟩
    · rintro ⟨b, cs, hb, hcs, rfl⟩
      exact ⟨b, hb, bind_eq_ok_iff.2 ⟨cs, ih.2 hcs, rfl⟩⟩

theorem forM_eq_ok_iff {f : α → Except ε Unit} {as : List α} : as.forM f = .ok () ↔ ∀ a ∈ as, f a = .ok () := by
  induction as with
  | nil => exact ⟨fun _ _ ha => (nomatch ha), fun _ => rfl⟩
  | cons a as ih =>
    show (f a >>= fun _ => as.forM f) = .ok () ↔ _
    rw [bind_eq_ok_iff, List.forall_mem_cons]
    constructor
    · rintro ⟨_, ha, has⟩
      exact ⟨ha, ih.1 has⟩
    · rintro ⟨ha, has⟩
      exact ⟨(), ha, ih.2 has⟩

end Except

/-! ## Results with events -/

namespace Logged

variable {ε ε' α β : Type} {m : Logged ε α}

@[simp] theorem result_ofExcept (r : Except ε α) : (ofExcept r).result = r := rfl

theorem result_bind_eq_ok_iff {f : α → Logged ε β} {b : β} :
    (m >>= f).result = .ok b ↔ ∃ a, m.result = .ok a ∧ (f a).result = .ok b := by
  show (m.bind f).result = .ok b ↔ _
  rw [result_bind]
  exact Except.bind_eq_ok_iff

@[simp] theorem result_mapError_eq_ok_iff {f : ε → ε'} {a : α} : (m.mapError f).result = .ok a ↔ m.result = .ok a :=
  Except.mapError_eq_ok_iff

theorem result_forAll_eq_ok_iff {f : α → Logged ε β} {as : List α} {bs : List β} :
    (forAll f as).result = .ok bs ↔ List.Forall₂ (fun a b => (f a).result = .ok b) as bs := by
  induction as generalizing bs with
  | nil =>
    rw [forAll, List.forall₂_nil_left_iff]
    exact ⟨fun h => by cases h; rfl, fun h => by rw [h]⟩
  | cons a as ih =>
    rw [forAll, List.forall₂_cons_left_iff]
    constructor
    · intro h
      obtain ⟨b, hb, hrest⟩ := result_bind_eq_ok_iff.1 h
      obtain ⟨cs, hcs, h⟩ := result_bind_eq_ok_iff.1 hrest
      cases h
      exact ⟨b, cs, hb, ih.1 hcs, rfl⟩
    · rintro ⟨b, cs, hb, hcs, rfl⟩
      exact result_bind_eq_ok_iff.2 ⟨b, hb, result_bind_eq_ok_iff.2 ⟨cs, ih.2 hcs, rfl⟩⟩

theorem exists_result_forAll_eq_ok_iff {f : α → Logged ε β} {as : List α} :
    (∃ bs, (forAll f as).result = .ok bs) ↔ ∀ a ∈ as, ∃ b, (f a).result = .ok b := by
  simp only [result_forAll_eq_ok_iff]
  exact exists_forall₂_iff

theorem result_attemptAll_eq_ok_iff {f : α → Logged ε β} {describe : α → ε → Event} {as : List α} {bs : List β} :
    (attemptAll f describe as).result = .ok bs ↔ List.Forall₂ (fun a b => (f a).result = .ok b) as bs := by
  induction as generalizing bs with
  | nil =>
    rw [attemptAll, List.forall₂_nil_left_iff]
    exact ⟨fun h => by cases h; rfl, fun h => by rw [h]⟩
  | cons a as ih =>
    rw [attemptAll, List.forall₂_cons_left_iff]
    cases ha : (f a).result with
    | error e => exact ⟨nofun, fun ⟨_, _, h, _⟩ => nomatch h⟩
    | ok b =>
      show (attemptAll f describe as).result.map (b :: ·) = .ok bs ↔ _
      rw [Except.map_eq_ok_iff]
      constructor
      · rintro ⟨cs, hcs, rfl⟩
        exact ⟨b, cs, rfl, ih.1 hcs, rfl⟩
      · rintro ⟨_, cs, h, hcs, rfl⟩
        cases h
        exact ⟨cs, ih.2 hcs, rfl⟩

theorem result_readAll_eq_ok_iff {read : α → Except ε β} {wrap : ε → ε'} {as : List α} {bs : List β} :
    (readAll read wrap as).result = .ok bs ↔ List.Forall₂ (fun a b => read a = .ok b) as bs := by
  show (as.mapM read).mapError wrap = .ok bs ↔ _
  rw [Except.mapError_eq_ok_iff, Except.mapM_eq_ok_iff]

end Logged

end TaskFlow
