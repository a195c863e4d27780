import TaskFlow.Json.Basic

/-!
# Questions about JSON values

- `lookup?`: the value at a path of keys and indices;
- `same`: equality of values, an integer never equal to a double and the two zeros equal;
- `compare?`: the order of two numbers, each as its nearest double, or of two strings;
- `equals`: `compare?` on numbers, `same` otherwise; `contains`: an item by `same`, a part of a string, a key;
- `length?`: items, characters or fields.
-/

namespace TaskFlow.Json

/-- One step into a value: a key of an object or an index of an array. -/
def step? : Json → Json → Option Json
  | .obj fields, .str k => fields.lookup k
  | .arr items, .num (.int i) => if 0 ≤ i then items[i.toNat]? else none
  | _, _ => none

/-- The value at a path; any key but an array is a path of one step. -/
def lookup? (v : Json) : Json → Option Json
  | .arr path => path.foldlM step? v
  | key => step? v key

/-! ## Equality and order -/

/-- Equality of numbers of one kind. -/
def Number.same : Number → Number → Bool
  | .int i, .int j => i == j
  | .real x, .real y => x.key == y.key
  | _, _ => false

mutual

/-- Equality of values up to the sign of zero. -/
def same : Json → Json → Bool
  | .null, .null => true
  | .bool a, .bool b => a == b
  | .num a, .num b => a.same b
  | .str a, .str b => a == b
  | .arr as, .arr bs => sameItems as bs
  | .obj as, .obj bs => sameFields as bs
  | _, _ => false

def sameItems : List Json → List Json → Bool
  | [], [] => true
  | a :: as, b :: bs => same a b && sameItems as bs
  | _, _ => false

def sameFields : List (String × Json) → List (String × Json) → Bool
  | [], [] => true
  | (k, a) :: as, (l, b) :: bs => k == l && same a b && sameFields as bs
  | _, _ => false

end

/-- Numbers in the order of their nearest doubles. -/
def Number.compare? (m n : Number) : Option Ordering :=
  match m.toDouble?, n.toDouble? with
  | some x, some y => some (x.compare y)
  | _, _ => none

/-- The order of two strings, by code points. -/
def compareNames (a b : String) : Ordering :=
  if a < b then .lt else if a = b then .eq else .gt

/-- The order of two numbers or of two strings; other pairs have none. -/
def compare? : Json → Json → Option Ordering
  | .num m, .num n => m.compare? n
  | .str a, .str b => some (compareNames a b)
  | _, _ => none

/-- Equality in which numbers go by value. -/
def equals : Json → Json → Bool
  | .num m, .num n => m.compare? n == some .eq
  | a, b => a.same b

/-! ## Containment and length -/

/-- Whether `part` stands somewhere in the list. -/
def hasInfix (part : List Char) : List Char → Bool
  | [] => part.isEmpty
  | c :: cs => part.isPrefixOf (c :: cs) || hasInfix part cs

/-- An item of an array, a part of a string or a key of an object. -/
def contains : Json → Json → Bool
  | .arr items, needle => items.any fun item => item.same needle
  | .str s, .str part => hasInfix part.toList s.toList
  | .obj fields, .str k => (fields.lookup k).isSome
  | _, _ => false

/-- Items of an array, characters of a string or fields of an object. -/
def length? : Json → Option Nat
  | .arr items => some items.length
  | .str s => some s.toList.length
  | .obj fields => some fields.length
  | _ => none

end TaskFlow.Json
