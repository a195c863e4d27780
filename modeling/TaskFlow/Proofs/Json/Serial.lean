import TaskFlow.Json.Printer

/-!
# What a serializer is given

- `Serial`: values as a serializer meets them, the keys of a map being values of any shape;
- `Serial.write?`: their text on one line; there is none where a key has no text;
- `Json.write?_serial`: a JSON value is written, and as `Json.compact`.
-/

namespace TaskFlow

/-- A value as a serializer meets it. -/
inductive Serial where
  | null
  | bool (b : Bool)
  | num (n : Json.Number)
  | str (s : String)
  | seq (items : List Serial)
  | map (entries : List (Serial × Serial))

namespace Serial

/-- The text of a key. Nothing, lists and maps have none. -/
def key? : Serial → Option String
  | .str s => some (Json.quote s)
  | .bool b => some (Json.quote (Json.bool b).compact)
  | .num n => some (Json.quote n.write)
  | .null | .seq _ | .map _ => none

mutual

/-- A value on one line, without blanks. -/
def write? : Serial → Option String
  | .null => some "null"
  | .bool b => some (Json.bool b).compact
  | .num n => some n.write
  | .str s => some (Json.quote s)
  | .seq items => (writeItems? items).map fun text => "[" ++ text ++ "]"
  | .map entries => (writeEntries? entries).map fun text => "\x7b" ++ text ++ "\x7d"

def writeItems? : List Serial → Option String
  | [] => some ""
  | [j] => write? j
  | j :: js => do
    let item ← write? j
    let items ← writeItems? js
    return item ++ "," ++ items

def writeEntries? : List (Serial × Serial) → Option String
  | [] => some ""
  | [(k, j)] => do
    let key ← key? k
    let value ← write? j
    return key ++ ":" ++ value
  | (k, j) :: es => do
    let key ← key? k
    let value ← write? j
    let entries ← writeEntries? es
    return key ++ ":" ++ value ++ "," ++ entries

end

end Serial

namespace Json

mutual

/-- A JSON value as a serializer meets it. -/
def serial : Json → Serial
  | .null => .null
  | .bool b => .bool b
  | .num n => .num n
  | .str s => .str s
  | .arr items => .seq (serialItems items)
  | .obj fields => .map (serialFields fields)

def serialItems : List Json → List Serial
  | [] => []
  | j :: js => serial j :: serialItems js

def serialFields : List (String × Json) → List (Serial × Serial)
  | [] => []
  | (k, j) :: fs => (.str k, serial j) :: serialFields fs

end

mutual

/-- All keys are texts, so the value is written. -/
theorem write?_serial : ∀ j : Json, j.serial.write? = some j.compact
  | .null => rfl
  | .bool b => rfl
  | .num n => rfl
  | .str s => rfl
  | .arr items => by rw [serial, Serial.write?, writeItems?_serial, compact, Option.map_some]
  | .obj fields => by rw [serial, Serial.write?, writeEntries?_serial, compact, Option.map_some]

theorem writeItems?_serial : ∀ js : List Json, Serial.writeItems? (serialItems js) = some (compactItems js)
  | [] => rfl
  | [j] => write?_serial j
  | j :: j' :: js => by
    have htext : compactItems (j :: j' :: js) = compact j ++ "," ++ compactItems (j' :: js) := rfl
    have hitems := writeItems?_serial (j' :: js)
    rw [serialItems] at hitems
    rw [serialItems, serialItems, Serial.writeItems?, write?_serial j, hitems, htext]
    · rfl
    · nofun

theorem writeEntries?_serial : ∀ fs : List (String × Json),
    Serial.writeEntries? (serialFields fs) = some (compactFields fs)
  | [] => rfl
  | [(k, j)] => by
    rw [serialFields, serialFields, Serial.writeEntries?, write?_serial j]
    rfl
  | (k, j) :: f :: fs => by
    have htext : compactFields ((k, j) :: f :: fs) =
        quote k ++ ":" ++ compact j ++ "," ++ compactFields (f :: fs) := rfl
    have hentries := writeEntries?_serial (f :: fs)
    rw [serialFields] at hentries
    rw [serialFields, serialFields, Serial.writeEntries?, write?_serial j, hentries, htext]
    · rfl
    · nofun

end

end Json

end TaskFlow
