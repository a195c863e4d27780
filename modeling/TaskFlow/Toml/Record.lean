import TaskFlow.Data.NameSet
import TaskFlow.Number.Word
import TaskFlow.Toml.Basic

/-!
# Reading records from TOML

- `record?`: the fields of a record with the given field names. A table holds them by name, an unknown key being an
  error; an array holds them in order and may end early;
- `Surplus`: whether more may follow where a reading is complete. What is passed over is not read at all;
- `required?`, `optional?` and `default?` read one field, which may be missing in the last two;
- `any?` and `entries?` read values of any shape, in which integers are signed 64-bit words and no number is void.
-/

namespace TaskFlow.Toml

variable {α : Type}

/-- What becomes of items behind the last field of a record, and of entries behind the text of a date-time. -/
inductive Surplus where
  | ignored
  | refused
deriving DecidableEq

/-- Whether nothing remains, or what remains is passed over. -/
def Surplus.allows (s : Surplus) {β : Type} (rest : List β) : Bool := s == .ignored || rest.isEmpty

/-- The fields of a record, by name or by position. -/
def record? (surplus : Surplus) (names : List String) : Toml → Option (List (String × Toml))
  | .table fields => if fields.all fun f => names.contains f.1 then some fields else none
  | .arr items => if surplus.allows (items.drop names.length) then some (names.zip items) else none
  | _ => none

def optional? (fields : List (String × Toml)) (name : String) (read : Toml → Option α) : Option (Option α) :=
  match fields.lookup name with
  | none => some none
  | some t => (read t).map some

def required? (fields : List (String × Toml)) (name : String) (read : Toml → Option α) : Option α :=
  (fields.lookup name).bind read

def default? (fields : List (String × Toml)) (name : String) (read : Toml → Option α) (fallback : α) : Option α :=
  (optional? fields name read).map fun a => a.getD fallback

def asString? : Toml → Option String
  | .str s => some s
  | _ => none

def asBool? : Toml → Option Bool
  | .bool b => some b
  | _ => none

/-- An integer from zero up to a bound. -/
def natBelow? (bound : Nat) : Toml → Option Nat
  | .int i => if 0 ≤ i ∧ i.toNat < bound then some i.toNat else none
  | _ => none

def word32? (t : Toml) : Option UInt32 := (natBelow? UInt32.size t).map UInt32.ofNat

def word64? (t : Toml) : Option UInt64 := (natBelow? UInt64.size t).map UInt64.ofNat

/-- Every value read, in order. -/
def readAll? (read : Toml → Option α) : List Toml → Option (List α)
  | [] => some []
  | t :: ts => do
    let a ← read t
    let as ← readAll? read ts
    return a :: as

def listOf? (read : Toml → Option α) : Toml → Option (List α)
  | .arr items => readAll? read items
  | _ => none

/-- One name or a list of names. -/
def nameOrNames? : Toml → Option (List String)
  | .str s => some [s]
  | t => listOf? asString? t

/-- Whether an integer is a signed 64-bit word. -/
def isWord (i : Int) : Bool := -(Word.half : Int) ≤ i && i < Word.half

section

variable (surplus : Surplus)

mutual

/-- A value of any shape. A table that begins with the key of date-times is one. -/
def any? : Toml → Option Toml
  | .int i => if isWord i then some (.int i) else none
  | .void => none
  | .arr items => (anyItems? items).map .arr
  | .table fields =>
    match fields with
    | [] => some (.table [])
    | (k, t) :: rest =>
      if k = datetimeKey then
        match t with
        | .str s => if surplus.allows rest then (Datetime.read? s.toList).map .datetime else none
        | _ => none
      else do
        let t ← any? t
        let rest ← anyFields? rest
        return .table ((k, t) :: rest)
  | t => some t

def anyItems? : List Toml → Option (List Toml)
  | [] => some []
  | t :: ts => do
    let t ← any? t
    let ts ← anyItems? ts
    return t :: ts

def anyFields? : List (String × Toml) → Option (List (String × Toml))
  | [] => some []
  | (k, t) :: fs => do
    let t ← any? t
    let fs ← anyFields? fs
    return (k, t) :: fs

end

/-- The entries of a table; a date-time is the table of its text. -/
def entries? : Toml → Option (List (String × Toml))
  | .table fields => anyFields? surplus fields
  | .datetime d => some [(datetimeKey, .str d.text)]
  | _ => none

end

end TaskFlow.Toml
