import TaskFlow.Json.Basic

/-!
# JSON text as it stands

- `Json.Draft`: what a text gives before anyone asks for its values. A part that is well formed but stands for no
  value is kept as `void`: a string with half of a surrogate pair, a number beyond the doubles, an object with such a
  string for a key, a container nested too deep;
- `Draft.value?`: the value of a draft without void parts. Every value has a draft of its own (`value?_draft`).
-/

namespace TaskFlow.Json

inductive Draft where
  | void
  | null
  | bool (b : Bool)
  | num (n : Number)
  | str (s : String)
  | arr (items : List Draft)
  | obj (fields : List (String × Draft))

namespace Draft

instance : Inhabited Draft := ⟨.void⟩

mutual

/-- The value, none where a part is void. -/
def value? : Draft → Option Json
  | void => none
  | null => some .null
  | bool b => some (.bool b)
  | num n => some (.num n)
  | str s => some (.str s)
  | arr items => (valueItems? items).map .arr
  | obj fields => (valueFields? fields).map .obj

def valueItems? : List Draft → Option (List Json)
  | [] => some []
  | d :: ds => do
    let j ← value? d
    let js ← valueItems? ds
    return j :: js

def valueFields? : List (String × Draft) → Option (List (String × Json))
  | [] => some []
  | (k, d) :: fs => do
    let j ← value? d
    let js ← valueFields? fs
    return (k, j) :: js

end

end Draft

mutual

/-- The draft of a value. -/
def draft : Json → Draft
  | .null => .null
  | .bool b => .bool b
  | .num n => .num n
  | .str s => .str s
  | .arr items => .arr (draftItems items)
  | .obj fields => .obj (draftFields fields)

def draftItems : List Json → List Draft
  | [] => []
  | j :: js => draft j :: draftItems js

def draftFields : List (String × Json) → List (String × Draft)
  | [] => []
  | (k, j) :: fs => (k, draft j) :: draftFields fs

end

mutual

theorem value?_draft : ∀ j : Json, j.draft.value? = some j
  | .null | .bool _ | .num _ | .str _ => rfl
  | .arr items => by simp [draft, Draft.value?, valueItems?_draftItems items]
  | .obj fields => by simp [draft, Draft.value?, valueFields?_draftFields fields]

theorem valueItems?_draftItems : ∀ js : List Json, Draft.valueItems? (draftItems js) = some js
  | [] => rfl
  | j :: js => by simp [draftItems, Draft.valueItems?, value?_draft j, valueItems?_draftItems js]

theorem valueFields?_draftFields : ∀ fs : List (String × Json), Draft.valueFields? (draftFields fs) = some fs
  | [] => rfl
  | (k, j) :: fs => by simp [draftFields, Draft.valueFields?, value?_draft j, valueFields?_draftFields fs]

end

end TaskFlow.Json
