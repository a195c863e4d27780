import TaskFlow.Toml.Basic

/-!
# Documents as they grow

- `Tree`: a table under construction. A table remembers whether only a longer header named it and whether a dotted
  key made it; values, inline tables among them, are closed;
- `Tree.assign?`, `Tree.openTable?`, `Tree.openItem?`: a key with its value, a table header, an array-of-tables
  header. Each fails where the document would define something twice.
-/

namespace TaskFlow.Toml

/-- What stands under a key of a growing document. -/
inductive Entry where
  | closed (value : Toml)
  | table (isImplicit isDotted : Bool) (fields : List (String × Entry))
  /-- The tables of an array of tables, the latest first. -/
  | tables (items : List (List (String × Entry)))

abbrev Tree := List (String × Entry)

namespace Tree

/-- The tree with one of its tables changed. Missing tables on the way are made; the way leads into the latest item
of an array of tables, and with `dotted` through no other table with a header of its own. -/
def within? (dotted : Bool) : List String → (Bool → Tree → Option Tree) → Bool → Tree → Option Tree
  | [], change, isDotted, tree => change isDotted tree
  | k :: path, change, _, tree =>
    match tree.lookup k with
    | none => do
      let inner ← within? dotted path change dotted []
      return Fields.insert k (.table true dotted inner) tree
    | some (.table isImplicit isDotted inner) => do
      if dotted && !isImplicit then none
      let inner ← within? dotted path change isDotted inner
      return Fields.insert k (.table isImplicit isDotted inner) tree
    | some (.tables (latest :: earlier)) => do
      let latest ← within? dotted path change false latest
      return Fields.insert k (.tables (latest :: earlier)) tree
    | some _ => none

/-- A key with its value below the current table. A dotted key continues only tables that dotted keys made. -/
def assign? (header path : List String) (k : String) (value : Toml) (tree : Tree) : Option Tree :=
  let put : Bool → Tree → Option Tree := fun isDotted fields =>
    if isDotted = path.isEmpty then none
    else if (fields.lookup k).isSome then none
    else some (Fields.insert k (.closed value) fields)
  within? false header (fun _ fields => within? true path put false fields) false tree

/-- A table header: the table is new, or only longer headers named it before. -/
def openTable? (path : List String) (k : String) (tree : Tree) : Option Tree :=
  let make : Bool → Tree → Option Tree := fun _ fields =>
    match fields.lookup k with
    | none => some (Fields.insert k (.table false false []) fields)
    | some (.table true false inner) => some (Fields.insert k (.table false false inner) fields)
    | some _ => none
  within? false path make false tree

/-- An array-of-tables header: the array is new or is such an array already. -/
def openItem? (path : List String) (k : String) (tree : Tree) : Option Tree :=
  let make : Bool → Tree → Option Tree := fun _ fields =>
    match fields.lookup k with
    | none => some (Fields.insert k (.tables [[]]) fields)
    | some (.tables items) => some (Fields.insert k (.tables ([] :: items)) fields)
    | some _ => none
  within? false path make false tree

end Tree

mutual

/-- The finished value of an entry. -/
def Entry.finish : Entry → Toml
  | .closed value => value
  | .table _ _ fields => .table (finishFields fields)
  | .tables items => .arr (finishItems items).reverse

def finishFields : List (String × Entry) → List (String × Toml)
  | [] => []
  | (k, e) :: fs => (k, e.finish) :: finishFields fs

def finishItems : List (List (String × Entry)) → List Toml
  | [] => []
  | fields :: items => .table (finishFields fields) :: finishItems items

end

end TaskFlow.Toml
