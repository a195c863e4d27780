import TaskFlow.Data.Fields

/-!
# Sets of names

- `NameSet`: names in increasing order, each once; equal sets have equal lists (`NameSet.ext`);
- `mem_insert`, `mem_ofList`: membership after the operations.
-/

namespace TaskFlow

/-- A finite set of names, kept in order. -/
structure NameSet where
  names : List String
  sorted : names.Pairwise (· < ·) := by first | exact List.Pairwise.nil | decide

namespace NameSet

instance : DecidableEq NameSet := fun a b =>
  decidable_of_iff (a.names = b.names) ⟨fun h => by cases a; cases b; cases h; rfl, fun h => h ▸ rfl⟩

instance : Inhabited NameSet := ⟨⟨[], List.Pairwise.nil⟩⟩

instance : Membership String NameSet := ⟨fun s x => x ∈ s.names⟩

instance (s : NameSet) (x : String) : Decidable (x ∈ s) := inferInstanceAs (Decidable (x ∈ s.names))

theorem ext {a b : NameSet} (h : a.names = b.names) : a = b := by
  cases a; cases b; cases h; rfl

/-- A name put in its place in a list. -/
def insertName (x : String) : List String → List String
  | [] => [x]
  | y :: ys => if x < y then x :: y :: ys else if x = y then y :: ys else y :: insertName x ys

theorem mem_insertName {x y : String} {xs : List String} : y ∈ insertName x xs ↔ y = x ∨ y ∈ xs := by
  induction xs with
  | nil => simp [insertName]
  | cons z zs ih =>
    unfold insertName
    split
    · simp
    · split
      · rename_i he
        subst he
        simp
      · simp [ih, or_left_comm]

theorem sorted_insertName (x : String) {xs : List String} (h : xs.Pairwise (· < ·)) :
    (insertName x xs).Pairwise (· < ·) := by
  induction xs with
  | nil => simp [insertName]
  | cons y ys ih =>
    have ⟨hhead, htail⟩ := List.pairwise_cons.1 h
    unfold insertName
    split
    · rename_i hx
      refine List.pairwise_cons.2 ⟨fun z hz => ?_, h⟩
      rcases List.mem_cons.1 hz with rfl | hz
      · exact hx
      · exact String.lt_trans hx (hhead z hz)
    · rename_i hx
      split
      · exact h
      · rename_i he
        refine List.pairwise_cons.2 ⟨fun z hz => ?_, ih htail⟩
        rcases mem_insertName.1 hz with rfl | hz
        · exact Fields.lt_of_not_lt_of_ne hx he
        · exact hhead z hz

def empty : NameSet := ⟨[], List.Pairwise.nil⟩

def insert (s : NameSet) (x : String) : NameSet := ⟨insertName x s.names, sorted_insertName x s.sorted⟩

def ofList (xs : List String) : NameSet := xs.foldl insert empty

def union (s : NameSet) (xs : List String) : NameSet := xs.foldl insert s

def contains (s : NameSet) (x : String) : Bool := decide (x ∈ s)

def size (s : NameSet) : Nat := s.names.length

def isEmpty (s : NameSet) : Bool := s.names.isEmpty

/-- The names of `s` that pass the test. -/
def filter (s : NameSet) (p : String → Bool) : NameSet := ⟨s.names.filter p, s.sorted.filter p⟩

/-- The first name of a list that is in the list in front of it or among the names seen. -/
def repeated? (seen : List String) : List String → Option String
  | [] => none
  | name :: names => if seen.contains name then some name else repeated? (name :: seen) names

@[simp] theorem mem_insert {s : NameSet} {x y : String} : y ∈ s.insert x ↔ y = x ∨ y ∈ s := mem_insertName

theorem mem_union {s : NameSet} {xs : List String} {y : String} : y ∈ s.union xs ↔ y ∈ s ∨ y ∈ xs := by
  unfold union
  induction xs generalizing s with
  | nil => simp
  | cons x xs ih =>
    rw [List.foldl_cons, ih, mem_insert, List.mem_cons, or_comm (a := y = x), or_assoc]

theorem mem_ofList {xs : List String} {y : String} : y ∈ ofList xs ↔ y ∈ xs := by
  have h : y ∉ empty := fun h => nomatch h
  have : y ∈ empty.union xs ↔ y ∈ empty ∨ y ∈ xs := mem_union
  exact ⟨fun hy => (this.1 hy).resolve_left h, fun hy => this.2 (Or.inr hy)⟩

end NameSet

end TaskFlow
