import TaskFlow.Data.Fields

/-!
# Dictionaries with names as keys

- `Dict α`: the sorted fields of a map from names to `α`; equal dictionaries have equal field lists (`Dict.ext`);
- `get?_insert`, `get?_empty`: the view through which the operations are seen.
-/

namespace TaskFlow

/-- A finite map from names, kept in name order. -/
structure Dict (α : Type) where
  entries : List (String × α)
  sorted : Fields.Sorted entries := by first | exact List.Pairwise.nil | decide

namespace Dict

variable {α β : Type}

instance [DecidableEq α] : DecidableEq (Dict α) := fun a b =>
  decidable_of_iff (a.entries = b.entries) ⟨fun h => by cases a; cases b; cases h; rfl, fun h => h ▸ rfl⟩

instance : Inhabited (Dict α) := ⟨⟨[], List.Pairwise.nil⟩⟩

theorem ext {a b : Dict α} (h : a.entries = b.entries) : a = b := by
  cases a; cases b; cases h; rfl

def empty : Dict α := ⟨[], List.Pairwise.nil⟩

def get? (d : Dict α) (k : String) : Option α := d.entries.lookup k

def contains (d : Dict α) (k : String) : Bool := (d.get? k).isSome

def insert (d : Dict α) (k : String) (v : α) : Dict α :=
  ⟨Fields.insert k v d.entries, d.sorted.insert k v⟩

/-- The last value of a repeated key wins. -/
def ofList (fs : List (String × α)) : Dict α := ⟨Fields.ofList fs, Fields.sorted_ofList fs⟩

def keys (d : Dict α) : List String := d.entries.map (·.1)

def values (d : Dict α) : List α := d.entries.map (·.2)

def size (d : Dict α) : Nat := d.entries.length

def isEmpty (d : Dict α) : Bool := d.entries.isEmpty

/-- Every value replaced, the keys kept. -/
def map (d : Dict α) (f : String → α → β) : Dict β :=
  ⟨d.entries.map fun e => (e.1, f e.1 e.2), d.sorted.map f⟩

@[simp] theorem get?_empty (k : String) : (empty : Dict α).get? k = none := rfl

@[simp] theorem get?_insert (d : Dict α) (k : String) (v : α) (k' : String) :
    (d.insert k v).get? k' = if k' = k then some v else d.get? k' :=
  Fields.lookup_insert k v d.entries k'

end Dict

end TaskFlow
