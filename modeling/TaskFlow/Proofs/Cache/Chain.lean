import Mathlib.Data.List.Nodup
import TaskFlow.Cache.Usage

/-!
# The chain of a usage list

- `UsageList.Linked`: records in slots, each linked to its neighbours; two parts of a chain hang together where the last
  slot of one and the first slot of the other meet (`linked_append`);
- `Linked.congr`: only the records in the slots of a chain matter, so that a change elsewhere keeps it;
- `UsageList.Chain`: a whole chain between head and tail; `Chain.unlink` takes a record out of it, `Chain.linkLast` puts
  one behind it.
-/

namespace TaskFlow.UsageList

variable {κ ν : Type} {l l' : UsageList κ ν} {s t : Nat} {k : κ} {v : ν} {prev next : Option Nat}

/-! ## Records after a change -/

theorem record?_modify (f : UsageRecord κ ν → UsageRecord κ ν) :
    (l.modify s f).record? t = if s = t then (l.record? t).map f else l.record? t := by
  unfold record? modify
  simp only [Array.getElem?_modify]
  split
  · cases l.slots[t]? <;> rfl
  · rfl

theorem record?_setNext :
    (l.setNext prev next).record? t =
      if prev = some t then (l.record? t).map (fun r => { r with next := next }) else l.record? t := by
  cases prev with
  | none => simp [setNext, record?]
  | some p => simp [setNext, record?_modify]

theorem record?_setPrev :
    (l.setPrev next prev).record? t =
      if next = some t then (l.record? t).map (fun r => { r with prev := prev }) else l.record? t := by
  cases next with
  | none => simp [setPrev, record?]
  | some n => simp [setPrev, record?_modify]

@[simp] theorem head_setNext : (l.setNext prev next).head = if prev = none then next else l.head := by
  cases prev <;> simp [setNext, modify]

@[simp] theorem tail_setNext : (l.setNext prev next).tail = l.tail := by
  cases prev <;> rfl

@[simp] theorem head_setPrev : (l.setPrev next prev).head = l.head := by
  cases next <;> rfl

@[simp] theorem tail_setPrev : (l.setPrev next prev).tail = if next = none then prev else l.tail := by
  cases next <;> simp [setPrev, modify]

/-! ## Links -/

/-- The first slot of some records. -/
def firstSlot (cells : List (Nat × κ × ν)) : Option Nat := cells.head?.map Prod.fst

/-- The last slot of some records. -/
def lastSlot (cells : List (Nat × κ × ν)) : Option Nat := cells.getLast?.map Prod.fst

@[simp] theorem firstSlot_nil : firstSlot ([] : List (Nat × κ × ν)) = none := rfl

@[simp] theorem lastSlot_nil : lastSlot ([] : List (Nat × κ × ν)) = none := rfl

@[simp] theorem firstSlot_cons (c : Nat × κ × ν) (cells : List (Nat × κ × ν)) : firstSlot (c :: cells) = some c.1 := rfl

@[simp] theorem lastSlot_concat (c : Nat × κ × ν) (cells : List (Nat × κ × ν)) :
    lastSlot (cells ++ [c]) = some c.1 := by
  simp [lastSlot]

theorem firstSlot_append (as bs : List (Nat × κ × ν)) : firstSlot (as ++ bs) = (firstSlot as).or (firstSlot bs) := by
  cases as <;> simp

theorem lastSlot_append (as bs : List (Nat × κ × ν)) : lastSlot (as ++ bs) = (lastSlot bs).or (lastSlot as) := by
  unfold lastSlot
  rw [List.getLast?_append]
  cases bs.getLast? <;> simp

theorem lastSlot_cons (c : Nat × κ × ν) (cells : List (Nat × κ × ν)) :
    lastSlot (c :: cells) = (lastSlot cells).or (some c.1) :=
  lastSlot_append [c] cells

theorem mem_of_firstSlot {cells : List (Nat × κ × ν)} (h : firstSlot cells = some s) : s ∈ cells.map Prod.fst := by
  obtain ⟨c, hc, rfl⟩ := Option.map_eq_some_iff.1 h
  exact List.mem_map_of_mem (List.mem_of_mem_head? hc)

theorem mem_of_lastSlot {cells : List (Nat × κ × ν)} (h : lastSlot cells = some s) : s ∈ cells.map Prod.fst := by
  obtain ⟨c, hc, rfl⟩ := Option.map_eq_some_iff.1 h
  exact List.mem_map_of_mem (List.mem_of_getLast? hc)

@[simp] theorem firstSlot_eq_none_iff {cells : List (Nat × κ × ν)} : firstSlot cells = none ↔ cells = [] := by
  simp [firstSlot]

@[simp] theorem lastSlot_eq_none_iff {cells : List (Nat × κ × ν)} : lastSlot cells = none ↔ cells = [] := by
  simp [lastSlot]

/-- The first slot when a record is taken out: that of the record behind it, if there is none in front of it. -/
theorem firstSlot_without (as bs : List (Nat × κ × ν)) (c : Nat × κ × ν) :
    (if lastSlot as = none then firstSlot bs else firstSlot (as ++ c :: bs)) = firstSlot (as ++ bs) := by
  cases as <;> simp

/-- The last slot when a record is taken out: that of the record in front of it, if there is none behind it. -/
theorem lastSlot_without (as bs : List (Nat × κ × ν)) (c : Nat × κ × ν) :
    (if firstSlot bs = none then lastSlot as else lastSlot (as ++ c :: bs)) = lastSlot (as ++ bs) := by
  rcases List.eq_nil_or_concat bs with rfl | ⟨init, c', rfl⟩
  · simp
  · simp [lastSlot_append, lastSlot_cons]

/-- Records in slots, each linked to the one in front of it and the one behind; `prev` and `next` are the slots around
them. -/
def Linked (l : UsageList κ ν) : Option Nat → List (Nat × κ × ν) → Option Nat → Prop
  | _, [], _ => True
  | prev, (s, k, v) :: cells, next =>
    l.record? s = some ⟨k, v, prev, (firstSlot cells).or next⟩ ∧ Linked l (some s) cells next

/-- Two parts of a chain hang together where they meet. -/
theorem linked_append {as bs : List (Nat × κ × ν)} :
    l.Linked prev (as ++ bs) next ↔
      l.Linked prev as ((firstSlot bs).or next) ∧ l.Linked ((lastSlot as).or prev) bs next := by
  induction as generalizing prev with
  | nil => simp [Linked]
  | cons c as ih =>
    obtain ⟨s, k, v⟩ := c
    have hlast : (lastSlot ((s, k, v) :: as)).or prev = (lastSlot as).or (some s) := by
      rw [lastSlot_cons]
      cases lastSlot as <;> rfl
    rw [List.cons_append, Linked, Linked, ih, firstSlot_append, hlast, Option.or_assoc, and_assoc]

/-- A chain is kept by changes outside of its slots. -/
theorem Linked.congr {cells : List (Nat × κ × ν)} (h : l.Linked prev cells next)
    (hsame : ∀ s ∈ cells.map Prod.fst, l'.record? s = l.record? s) : l'.Linked prev cells next := by
  induction cells generalizing prev with
  | nil => trivial
  | cons c cells ih =>
    obtain ⟨s, k, v⟩ := c
    obtain ⟨hs, hcells⟩ := h
    refine ⟨(hsame s (by simp)).trans hs, ih hcells fun t ht => hsame t ?_⟩
    rw [List.map_cons]
    exact List.mem_cons_of_mem _ ht

/-- The last record of a chain linked to another slot behind it. -/
theorem Linked.setNext {cells : List (Nat × κ × ν)} (h : l.Linked prev cells next)
    (hnodup : (cells.map Prod.fst).Nodup) (next' : Option Nat) :
    (l.setNext (lastSlot cells) next').Linked prev cells next' := by
  rcases List.eq_nil_or_concat cells with rfl | ⟨init, ⟨s, k, v⟩, rfl⟩
  · trivial
  · rw [List.concat_eq_append] at h hnodup ⊢
    rw [linked_append] at h ⊢
    obtain ⟨hinit, hs, -⟩ := h
    have hnot : s ∉ init.map Prod.fst := by
      rw [List.map_append, List.nodup_append] at hnodup
      intro hmem
      exact hnodup.2.2 s hmem s (by simp) rfl
    refine ⟨hinit.congr fun t ht => ?_, ?_, trivial⟩
    · have hne : s ≠ t := fun heq => hnot (heq ▸ ht)
      simp [record?_setNext, hne]
    · simp [record?_setNext, hs]

/-- The first record of a chain linked to another slot in front of it. -/
theorem Linked.setPrev {cells : List (Nat × κ × ν)} (h : l.Linked prev cells next)
    (hnodup : (cells.map Prod.fst).Nodup) (prev' : Option Nat) :
    (l.setPrev (firstSlot cells) prev').Linked prev' cells next := by
  cases cells with
  | nil => trivial
  | cons c cells =>
    obtain ⟨s, k, v⟩ := c
    obtain ⟨hs, hcells⟩ := h
    rw [List.map_cons, List.nodup_cons] at hnodup
    refine ⟨?_, hcells.congr fun t ht => ?_⟩
    · simp [record?_setPrev, hs]
    · have hne : s ≠ t := fun heq => hnodup.1 (heq ▸ ht)
      simp [record?_setPrev, hne]

/-! ## Whole chains -/

/-- The records from the head to the tail. -/
structure Chain (l : UsageList κ ν) (cells : List (Nat × κ × ν)) : Prop where
  linked : l.Linked none cells none
  head_eq : l.head = firstSlot cells
  tail_eq : l.tail = lastSlot cells
  nodup : (cells.map Prod.fst).Nodup

namespace Chain

variable {cells as bs : List (Nat × κ × ν)}

theorem congr (h : l.Chain cells) (hrecord : ∀ s ∈ cells.map Prod.fst, l'.record? s = l.record? s)
    (hhead : l'.head = l.head) (htail : l'.tail = l.tail) : l'.Chain cells :=
  ⟨h.linked.congr hrecord, hhead.trans h.head_eq, htail.trans h.tail_eq, h.nodup⟩

/-- The record of a slot, linked to its neighbours. -/
theorem record?_eq (h : l.Chain (as ++ (s, k, v) :: bs)) :
    l.record? s = some ⟨k, v, lastSlot as, firstSlot bs⟩ := by
  have hs := (linked_append.1 h.linked).2.1
  simpa using hs

theorem exists_record? (h : l.Chain cells) (hs : s ∈ cells.map Prod.fst) : ∃ r, l.record? s = some r := by
  obtain ⟨⟨s, k, v⟩, hc, rfl⟩ := List.mem_map.1 hs
  obtain ⟨as, bs, rfl⟩ := List.append_of_mem hc
  exact ⟨_, h.record?_eq⟩

/-- A slot occurs once in a chain. -/
theorem nodup_split (h : l.Chain (as ++ (s, k, v) :: bs)) :
    s ∉ (as ++ bs).map Prod.fst ∧ ((as ++ bs).map Prod.fst).Nodup := by
  have hperm : ((as ++ (s, k, v) :: bs).map Prod.fst).Perm (s :: (as ++ bs).map Prod.fst) :=
    List.perm_middle.map Prod.fst
  exact List.nodup_cons.1 (hperm.nodup_iff.1 h.nodup)

/-- **A record is taken out of the chain**: its neighbours are linked to each other, and it has no links left. -/
theorem unlink (h : l.Chain (as ++ (s, k, v) :: bs)) :
    (l.unlink s).Chain (as ++ bs) ∧ (l.unlink s).record? s = some ⟨k, v, none, none⟩ := by
  obtain ⟨hs, hnodup⟩ := h.nodup_split
  obtain ⟨hnodup_as, hnodup_bs, hdisjoint⟩ := List.nodup_append.1 (List.map_append ▸ hnodup)
  have hab : ∀ t ∈ as.map Prod.fst, t ∉ bs.map Prod.fst := fun t hta htb => hdisjoint t hta t htb rfl
  rw [List.map_append, List.mem_append, not_or] at hs
  obtain ⟨hsa, hsb⟩ := hs
  obtain ⟨has, -, hbs⟩ := linked_append.1 h.linked
  have hp : lastSlot as ≠ some s := fun heq => hsa (mem_of_lastSlot heq)
  have hn : firstSlot bs ≠ some s := fun heq => hsb (mem_of_firstSlot heq)
  have hpb : ∀ t ∈ bs.map Prod.fst, lastSlot as ≠ some t := fun t ht heq => hab t (mem_of_lastSlot heq) ht
  have hna : ∀ t ∈ as.map Prod.fst, firstSlot bs ≠ some t := fun t ht heq => hab t ht (mem_of_firstSlot heq)
  -- the links of the record are cleared, then those of its two neighbours are set
  let cleared : UsageList κ ν := l.modify s fun r => { r with prev := none, next := none }
  let joined := cleared.setNext (lastSlot as) (firstSlot bs)
  have hunlink : l.unlink s = joined.setPrev (firstSlot bs) (lastSlot as) := by
    rw [UsageList.unlink, h.record?_eq]
  have hcleared : ∀ t, s ≠ t → cleared.record? t = l.record? t := by
    intro t ht
    simp [cleared, record?_modify, ht]
  have has_joined : joined.Linked none as (firstSlot bs) :=
    Linked.setNext (has.congr fun t ht => hcleared t fun heq => hsa (heq ▸ ht)) hnodup_as (firstSlot bs)
  have hbs_joined : joined.Linked (some s) bs none := by
    refine hbs.congr fun t ht => ?_
    rw [record?_setNext, if_neg (hpb t ht), hcleared t fun heq => hsb (heq ▸ ht)]
  have hrecord : (l.unlink s).record? s = some ⟨k, v, none, none⟩ := by
    rw [hunlink, record?_setPrev, if_neg hn, record?_setNext, if_neg hp]
    simp [cleared, record?_modify, h.record?_eq]
  refine ⟨⟨?_, ?_, ?_, hnodup⟩, hrecord⟩
  · rw [hunlink, linked_append, Option.or_none, Option.or_none]
    constructor
    · refine has_joined.congr fun t ht => ?_
      rw [record?_setPrev, if_neg (hna t ht)]
    · exact hbs_joined.setPrev hnodup_bs (lastSlot as)
  · have hhead : cleared.head = firstSlot (as ++ (s, k, v) :: bs) := h.head_eq
    rw [hunlink, head_setPrev, head_setNext, hhead, firstSlot_without]
  · have htail : cleared.tail = lastSlot (as ++ (s, k, v) :: bs) := h.tail_eq
    rw [hunlink, tail_setPrev, tail_setNext, htail, lastSlot_without]

/-- **A record is put behind the chain.** -/
theorem linkLast (h : l.Chain cells) {r : UsageRecord κ ν} (hs : l.record? s = some r)
    (hnew : s ∉ cells.map Prod.fst) : (l.linkLast s).Chain (cells ++ [(s, r.key, r.value)]) := by
  have hlast : lastSlot cells ≠ some s := fun heq => hnew (mem_of_lastSlot heq)
  -- the record gets its links, then the one in front of it
  let placed : UsageList κ ν := l.modify s fun r => { r with prev := l.tail, next := none }
  let joined := placed.setNext (lastSlot cells) (some s)
  have hlink : l.linkLast s = { joined with tail := some s } := by
    simp only [UsageList.linkLast, joined, placed, h.tail_eq]
  have hplaced : placed.record? s = some ⟨r.key, r.value, lastSlot cells, none⟩ := by
    simp [placed, record?_modify, hs, h.tail_eq]
  have hcells : joined.Linked none cells (some s) := by
    refine Linked.setNext (h.linked.congr fun t ht => ?_) h.nodup (some s)
    have hne : s ≠ t := fun heq => hnew (heq ▸ ht)
    simp [placed, record?_modify, hne]
  have hjoined : joined.record? s = some ⟨r.key, r.value, lastSlot cells, none⟩ := by
    rw [record?_setNext, if_neg hlast, hplaced]
  refine ⟨?_, ?_, ?_, ?_⟩
  · rw [hlink, linked_append]
    refine ⟨hcells.congr fun _ _ => rfl, ?_, trivial⟩
    simpa [record?] using hjoined
  · have hhead : placed.head = firstSlot cells := h.head_eq
    have hjoin : joined.head = firstSlot (cells ++ [(s, r.key, r.value)]) := by
      rw [head_setNext, hhead, firstSlot_append]
      cases cells <;> simp
    rw [hlink]
    exact hjoin
  · rw [hlink, lastSlot_concat]
  · have hnodup := h.nodup.concat hnew
    rw [List.map_append]
    simpa using hnodup

end Chain

end TaskFlow.UsageList
