import TaskFlow.Data.Fields
import TaskFlow.Number.Double

/-!
# JSON values

- `Json`: values whose objects hold their fields in a given order; `Json.normalize` sorts them by key, the last
  value of a repeated key winning, and `Json.Normal` says that nothing is left to sort;
- `Json.Number`: an integer or a finite double. The two never mix: `2.0` is no integer;
- readings of a value as one shape: `asNat?`, `asString?`, `field?` and the like.
-/

namespace TaskFlow

/-- A number is an integer or a finite double. -/
inductive Json.Number where
  | int (i : Int)
  | real (x : Double)
deriving DecidableEq

inductive Json where
  | null
  | bool (b : Bool)
  | num (n : Json.Number)
  | str (s : String)
  | arr (items : List Json)
  | obj (fields : List (String × Json))

namespace Json

instance : Inhabited Json := ⟨.null⟩

instance : Coe Bool Json := ⟨.bool⟩

instance : Coe String Json := ⟨.str⟩

def ofInt (i : Int) : Json := .num (.int i)

def ofNat (n : Nat) : Json := .num (.int n)

mutual

/-- Equality of values, field order included. -/
def beq : Json → Json → Bool
  | .null, .null => true
  | .bool a, .bool b => a == b
  | .num a, .num b => a == b
  | .str a, .str b => a == b
  | .arr as, .arr bs => beqItems as bs
  | .obj as, .obj bs => beqFields as bs
  | _, _ => false

def beqItems : List Json → List Json → Bool
  | [], [] => true
  | a :: as, b :: bs => beq a b && beqItems as bs
  | _, _ => false

def beqFields : List (String × Json) → List (String × Json) → Bool
  | [], [] => true
  | (k, a) :: as, (l, b) :: bs => k == l && beq a b && beqFields as bs
  | _, _ => false

end

mutual

theorem beq_iff : ∀ a b : Json, beq a b = true ↔ a = b
  | .null, b | .bool _, b | .num _, b | .str _, b => by cases b <;> simp [beq]
  | .arr as, b => by cases b <;> simp [beq, beqItems_iff as]
  | .obj as, b => by cases b <;> simp [beq, beqFields_iff as]

theorem beqItems_iff : ∀ as bs : List Json, beqItems as bs = true ↔ as = bs
  | [], bs => by cases bs <;> simp [beqItems]
  | a :: as, bs => by cases bs <;> simp [beqItems, beq_iff a, beqItems_iff as]

theorem beqFields_iff : ∀ as bs : List (String × Json), beqFields as bs = true ↔ as = bs
  | [], bs => by cases bs <;> simp [beqFields]
  | (k, a) :: as, bs => by cases bs <;> simp [beqFields, beq_iff a, beqFields_iff as, Prod.ext_iff]

end

instance : DecidableEq Json := fun a b => decidable_of_iff (beq a b = true) (beq_iff a b)

/-! ## One shape of value -/

def isNull : Json → Bool
  | .null => true
  | _ => false

def asBool? : Json → Option Bool
  | .bool b => some b
  | _ => none

def asString? : Json → Option String
  | .str s => some s
  | _ => none

/-- A non-negative integer; a double is none, even with a whole value. -/
def asNat? : Json → Option Nat
  | .num (.int i) => if 0 ≤ i then some i.toNat else none
  | _ => none

def asArray? : Json → Option (List Json)
  | .arr items => some items
  | _ => none

def asObject? : Json → Option (List (String × Json))
  | .obj fields => some fields
  | _ => none

/-- The value of a field of an object. -/
def field? (k : String) : Json → Option Json
  | .obj fields => fields.lookup k
  | _ => none

/-! ## Key order -/

mutual

/-- Every object sorted by key, the last value of a repeated key winning. -/
def normalize : Json → Json
  | .arr items => .arr (normalizeItems items)
  | .obj fields => .obj (Fields.ofList (normalizeFields fields))
  | j => j

def normalizeItems : List Json → List Json
  | [] => []
  | j :: js => normalize j :: normalizeItems js

def normalizeFields : List (String × Json) → List (String × Json)
  | [] => []
  | (k, j) :: fs => (k, normalize j) :: normalizeFields fs

end

mutual

/-- Every object is sorted by key. -/
def Normal : Json → Prop
  | .arr items => NormalItems items
  | .obj fields => Fields.Sorted fields ∧ NormalFields fields
  | _ => True

def NormalItems : List Json → Prop
  | [] => True
  | j :: js => Normal j ∧ NormalItems js

def NormalFields : List (String × Json) → Prop
  | [] => True
  | (_, j) :: fs => Normal j ∧ NormalFields fs

end

/-- The double nearest to a number; an integer beyond the doubles has none. -/
def Number.toDouble? : Number → Option Double
  | .int i => Double.ofInt? i
  | .real x => some x

end Json

end TaskFlow
