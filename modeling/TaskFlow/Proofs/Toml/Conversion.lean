import TaskFlow.Toml.Basic

/-!
# Conversions to JSON that may fail

- `Toml.convert?`: the JSON form of a value from a conversion of those that are neither array nor table, without a
  result as soon as one of them has none;
- `Toml.isSome_convert?`: if none fails, no value does, however nested;
- `Toml.convert?_scalarJson?`: from the conversion in use it is `Toml.toJson`.
-/

namespace TaskFlow.Toml

/-- Whether a value is neither an array nor a table. -/
def isScalar : Toml → Bool
  | .arr _ | .table _ => false
  | _ => true

/-- The JSON form of what is neither an array nor a table. -/
def scalarJson? (t : Toml) : Option Json := if t.isScalar then some t.toJson else none

variable (scalar : Toml → Option Json)

mutual

/-- The JSON form of a value, if that of every scalar in it can be had. -/
def convert? : Toml → Option Json
  | .arr items => (convertItems? items).map .arr
  | .table fields => (convertFields? fields).map .obj
  | t => scalar t

def convertItems? : List Toml → Option (List Json)
  | [] => some []
  | t :: ts => do
    let j ← convert? t
    let js ← convertItems? ts
    return j :: js

def convertFields? : List (String × Toml) → Option (List (String × Json))
  | [] => some []
  | (k, t) :: fs => do
    let j ← convert? t
    let fs ← convertFields? fs
    return (k, j) :: fs

end

variable {scalar}

/-- Scalars are converted without failure. -/
def ConvertsScalars (scalar : Toml → Option Json) : Prop := ∀ t : Toml, t.isScalar = true → (scalar t).isSome = true

theorem convertsScalars_scalarJson? : ConvertsScalars scalarJson? := by
  intro t ht
  rw [scalarJson?, if_pos ht]
  rfl

mutual

/-- **Nesting adds no failure.** -/
theorem isSome_convert? (h : ConvertsScalars scalar) : ∀ t : Toml, (convert? scalar t).isSome = true
  | .arr items => by rw [convert?, Option.isSome_map, isSome_convertItems? h items]
  | .table fields => by rw [convert?, Option.isSome_map, isSome_convertFields? h fields]
  | .void => h .void rfl
  | .str s => h (.str s) rfl
  | .int i => h (.int i) rfl
  | .real x => h (.real x) rfl
  | .bool b => h (.bool b) rfl
  | .datetime d => h (.datetime d) rfl

theorem isSome_convertItems? (h : ConvertsScalars scalar) : ∀ ts : List Toml, (convertItems? scalar ts).isSome = true
  | [] => rfl
  | t :: ts => by
    obtain ⟨j, hj⟩ := Option.isSome_iff_exists.1 (isSome_convert? h t)
    obtain ⟨js, hjs⟩ := Option.isSome_iff_exists.1 (isSome_convertItems? h ts)
    rw [convertItems?, hj, hjs]
    rfl

theorem isSome_convertFields? (h : ConvertsScalars scalar) :
    ∀ fs : List (String × Toml), (convertFields? scalar fs).isSome = true
  | [] => rfl
  | (k, t) :: fs => by
    obtain ⟨j, hj⟩ := Option.isSome_iff_exists.1 (isSome_convert? h t)
    obtain ⟨js, hjs⟩ := Option.isSome_iff_exists.1 (isSome_convertFields? h fs)
    rw [convertFields?, hj, hjs]
    rfl

end

mutual

/-- Converted scalar by scalar, a value has its JSON form. -/
theorem convert?_scalarJson? : ∀ t : Toml, convert? scalarJson? t = some t.toJson
  | .arr items => by rw [convert?, convertItems?_scalarJson?, toJson, Option.map_some]
  | .table fields => by rw [convert?, convertFields?_scalarJson?, toJson, Option.map_some]
  | .void | .str _ | .int _ | .real _ | .bool _ | .datetime _ => rfl

theorem convertItems?_scalarJson? : ∀ ts : List Toml, convertItems? scalarJson? ts = some (toJsonItems ts)
  | [] => rfl
  | t :: ts => by
    rw [convertItems?, convert?_scalarJson? t, convertItems?_scalarJson? ts]
    rfl

theorem convertFields?_scalarJson? : ∀ fs : List (String × Toml), convertFields? scalarJson? fs = some (toJsonFields fs)
  | [] => rfl
  | (k, t) :: fs => by
    rw [convertFields?, convert?_scalarJson? t, convertFields?_scalarJson? fs]
    rfl

end

end TaskFlow.Toml
