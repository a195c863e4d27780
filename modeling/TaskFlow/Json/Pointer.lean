import TaskFlow.Json.Basic
import TaskFlow.Number.Numeral

/-!
# Pointers into JSON values

- `Pointer.steps?`: the steps of a pointer text, `~1` standing for a slash and `~0` for a tilde;
- `replaceAt?`: the value with another one at a pointer, none when the pointer leads nowhere.
-/

namespace TaskFlow.Json

/-- One step of a pointer, its two escapes undone. -/
def Pointer.unescape : List Char → List Char
  | '~' :: '1' :: cs => '/' :: unescape cs
  | '~' :: '0' :: cs => '~' :: unescape cs
  | c :: cs => c :: unescape cs
  | [] => []

/-- The parts of a text between slashes. -/
def Pointer.split : List Char → List (List Char)
  | [] => [[]]
  | c :: cs =>
    if c = '/' then [] :: split cs
    else match split cs with
      | part :: parts => (c :: part) :: parts
      | [] => [[c]]

/-- The steps of a pointer: the empty text has none, any other begins with a slash. -/
def Pointer.steps? (s : String) : Option (List String) :=
  match s.toList with
  | [] => some []
  | '/' :: cs => some ((split cs).map fun part => String.ofList (unescape part))
  | _ => none

/-- An index without a sign or leading zeros. -/
def Pointer.index? (s : String) : Option Nat :=
  let cs := s.toList
  if cs.isEmpty || !cs.all Char.isDigit || (cs.length != 1 && cs.head? == some '0') then none
  else some (Numeral.numeral 10 cs)

/-- The value with `v` at the end of the steps. -/
def replace? (v : Json) : List String → Json → Option Json
  | [], _ => some v
  | s :: steps, .obj fields => do
    let old ← fields.lookup s
    let new ← replace? v steps old
    return .obj (fields.map fun f => if f.1 = s then (f.1, new) else f)
  | s :: steps, .arr items => do
    let i ← Pointer.index? s
    let old ← items[i]?
    let new ← replace? v steps old
    return .arr (items.set i new)
  | _, _ => none

def replaceAt? (v : Json) (pointer : String) (j : Json) : Option Json := do
  let steps ← Pointer.steps? pointer
  replace? v steps j

end TaskFlow.Json
