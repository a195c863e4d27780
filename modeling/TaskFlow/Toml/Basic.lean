import TaskFlow.Json.Basic
import TaskFlow.Toml.Datetime

/-!
# TOML values

- `Toml`: the values of configuration documents; tables are sorted by key. Integers are kept as written, be they
  beyond the words, and what only has the form of a number is `void`;
- `Toml.toJson`: the JSON form, in which a date-time is an object with its text and a float without a finite value
  is null;
- `Toml.ofJson?`: the document with the content of a JSON value, none where it holds a null.
-/

namespace TaskFlow

/-- A float may be infinite or no number at all. -/
inductive Toml.Real where
  | finite (x : Double)
  | infinite (negative : Bool)
  | notANumber (negative : Bool)
deriving DecidableEq

inductive Toml where
  /-- A number that stands for no value; it does no harm where nobody reads it. -/
  | void
  | str (s : String)
  | int (i : Int)
  | real (x : Toml.Real)
  | bool (b : Bool)
  | datetime (d : Datetime)
  | arr (items : List Toml)
  | table (fields : List (String × Toml))

namespace Toml

instance : Inhabited Toml := ⟨.bool false⟩

/-- The kind of a value as messages name it. -/
def kind : Toml → String
  | .void => "number"
  | .str _ => "string"
  | .int _ => "integer"
  | .real _ => "float"
  | .bool _ => "boolean"
  | .datetime _ => "datetime"
  | .arr _ => "array"
  | .table _ => "table"

/-- The key under which a date-time stands in JSON. -/
def datetimeKey : String := "$__toml_private_datetime"

mutual

/-- The JSON form of a value. -/
def toJson : Toml → Json
  | .void => .null
  | .str s => .str s
  | .int i => .num (.int i)
  | .real (.finite x) => .num (.real x)
  | .real _ => .null
  | .bool b => .bool b
  | .datetime d => .obj [(datetimeKey, .str d.text)]
  | .arr items => .arr (toJsonItems items)
  | .table fields => .obj (toJsonFields fields)

def toJsonItems : List Toml → List Json
  | [] => []
  | t :: ts => toJson t :: toJsonItems ts

def toJsonFields : List (String × Toml) → List (String × Json)
  | [] => []
  | (k, t) :: fs => (k, toJson t) :: toJsonFields fs

end

mutual

/-- The document with the content of a JSON value. -/
def ofJson? : Json → Option Toml
  | .null => none
  | .bool b => some (.bool b)
  | .num (.int i) => some (.int i)
  | .num (.real x) => some (.real (.finite x))
  | .str s => some (.str s)
  | .arr items => (ofJsonItems? items).map .arr
  | .obj fields => (ofJsonFields? fields).map fun fs => .table (Fields.ofList fs)

def ofJsonItems? : List Json → Option (List Toml)
  | [] => some []
  | j :: js => do
    let t ← ofJson? j
    let ts ← ofJsonItems? js
    return t :: ts

def ofJsonFields? : List (String × Json) → Option (List (String × Toml))
  | [] => some []
  | (k, j) :: fs => do
    let t ← ofJson? j
    let ts ← ofJsonFields? fs
    return (k, t) :: ts

end

end Toml

end TaskFlow
