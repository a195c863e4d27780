import TaskFlow.Data.Fields

/-!
# Maps with lists of names as keys

- `Trie α`: a tree with a branch for each name that a key goes on with, and a value where a key ends;
- `find?_insert`, `find?_empty`: the view through which the operations are seen.
-/

namespace TaskFlow

/-- A finite map from lists of names, branching by the next name. -/
inductive Trie (α : Type) where
  | node (value : Option α) (branches : List (String × Trie α))

namespace Trie

variable {α : Type}

def empty : Trie α := node none []

def value : Trie α → Option α
  | node v _ => v

/-- The rest of the map behind a name. -/
def branch : Trie α → String → Trie α
  | node _ bs, k => (bs.lookup k).getD empty

def find? : Trie α → List String → Option α
  | t, [] => t.value
  | t, k :: ks => find? (t.branch k) ks

def insert : Trie α → List String → α → Trie α
  | node _ bs, [], a => node (some a) bs
  | node v bs, k :: ks, a => node v (Fields.insert k (insert ((bs.lookup k).getD empty) ks a) bs)

theorem branch_empty (k : String) : (empty : Trie α).branch k = empty := rfl

@[simp] theorem find?_empty (ks : List String) : (empty : Trie α).find? ks = none := by
  induction ks with
  | nil => rfl
  | cons k ks ih => rw [find?, branch_empty, ih]

theorem branch_insert (t : Trie α) (k : String) (ks : List String) (a : α) (k' : String) :
    (t.insert (k :: ks) a).branch k' = if k' = k then (t.branch k).insert ks a else t.branch k' := by
  obtain ⟨v, bs⟩ := t
  simp only [insert, branch, Fields.lookup_insert]
  split <;> rfl

@[simp] theorem find?_insert (t : Trie α) (ks : List String) (a : α) (ks' : List String) :
    (t.insert ks a).find? ks' = if ks' = ks then some a else t.find? ks' := by
  induction ks generalizing t ks' with
  | nil =>
    obtain ⟨v, bs⟩ := t
    cases ks' <;> simp [insert, find?, value, branch]
  | cons k ks ih =>
    cases ks' with
    | nil =>
      obtain ⟨v, bs⟩ := t
      simp [insert, find?, value]
    | cons k' ks' =>
      rw [find?, branch_insert]
      by_cases hk : k' = k
      · subst hk
        simp [ih, find?]
      · simp [hk, find?]

end Trie

end TaskFlow
