import TaskFlow.Data.Dict
import TaskFlow.Data.NameSet
import TaskFlow.Json.Draft

/-!
# Reading records from JSON

- `record?`: the fields of a record with the given field names. An object holds them by name, a repeated field being
  an error and an unknown one passed over, void or not; an array holds exactly the fields, in order;
- `required?` and `optional?` read one field: a missing field fails the first and is absent for the second, as a
  null is;
- `dict?`, `nameSet?`, `listOf?` read containers, failing when one entry does.
-/

namespace TaskFlow.Json

variable {α : Type}

/-! ## Scalars -/

def bool? : Draft → Option Bool
  | .bool b => some b
  | _ => none

def string? : Draft → Option String
  | .str s => some s
  | _ => none

/-- A non-negative integer; a double is none, even with a whole value. -/
def nat? : Draft → Option Nat
  | .num (.int i) => if 0 ≤ i then some i.toNat else none
  | _ => none

/-! ## Records and containers -/

/-- Whether a name is the key of at most one field. -/
def atMostOnce (fields : List (String × Draft)) (name : String) : Bool :=
  (fields.filter fun f => f.1 == name).length ≤ 1

/-- The fields of a record, by name or by position. -/
def record? (names : List String) : Draft → Option (List (String × Draft))
  | .obj fields => if names.all (atMostOnce fields) then some fields else none
  | .arr items => if items.length = names.length then some (names.zip items) else none
  | _ => none

def required? (fields : List (String × Draft)) (name : String) (read : Draft → Option α) : Option α :=
  (fields.lookup name).bind read

def optional? (fields : List (String × Draft)) (name : String) (read : Draft → Option α) : Option (Option α) :=
  match fields.lookup name with
  | none => some none
  | some .null => some none
  | some d => (read d).map some

/-- Every value read, in order. -/
def readAll? (read : Draft → Option α) : List Draft → Option (List α)
  | [] => some []
  | d :: ds => do
    let a ← read d
    let as ← readAll? read ds
    return a :: as

def listOf? (read : Draft → Option α) : Draft → Option (List α)
  | .arr items => readAll? read items
  | _ => none

/-- Every field read, in order. -/
def readFields? (read : Draft → Option α) : List (String × Draft) → Option (List (String × α))
  | [] => some []
  | (k, d) :: fs => do
    let a ← read d
    let as ← readFields? read fs
    return (k, a) :: as

/-- An object as a dictionary, the last value of a repeated key winning. -/
def dict? (read : Draft → Option α) : Draft → Option (Dict α)
  | .obj fields => (readFields? read fields).map Dict.ofList
  | _ => none

def names? : Draft → Option (List String) := listOf? string?

def nameSet? (d : Draft) : Option NameSet := (names? d).map NameSet.ofList

/-- A value of any shape, its objects sorted. -/
def any? (d : Draft) : Option Json := d.value?.map normalize

/-! ## Writing -/

def ofNames (names : List String) : Json := .arr (names.map .str)

def ofNameSet (s : NameSet) : Json := ofNames s.names

def ofOption (write : α → Json) : Option α → Json
  | some a => write a
  | none => .null

def ofDict (write : α → Json) (d : Dict α) : Json := .obj (d.entries.map fun e => (e.1, write e.2))

end TaskFlow.Json
