import Mathlib.Data.String.Basic
import Mathlib.Order.Compare
import TaskFlow.Json.Query
import TaskFlow.Proofs.Number.Double

/-!
# Answers to questions about JSON values

- `Number.InRange`: the numbers that values can hold. They are comparable by value (`Number.exists_compare?`);
- `compare?_swap`: the order of two values read from the other side; `Comparable` says which pairs have one
  (`exists_compare?`, `compare?_eq_none`), and on these equality agrees with the order (`equals_of_comparable`);
- `equals_iff`: equal values are the same value or two numbers of one double;
- `HasLength`: arrays, strings and objects have a length (`length?_eq_some_iff`);
- `extend`: a path with one more index behind it, which leads to an item of an array (`lookup?_extend`).
-/

namespace TaskFlow.Json

/-! ## Numbers -/

/-- The integers of 64 bits and all doubles. -/
def Number.InRange : Number → Prop
  | .int i => -2 ^ 63 ≤ i ∧ i < 2 ^ 64
  | .real _ => True

instance : DecidablePred Number.InRange
  | .int i => inferInstanceAs (Decidable (-2 ^ 63 ≤ i ∧ i < 2 ^ 64))
  | .real _ => inferInstanceAs (Decidable True)

/-- No number that is out of range. -/
def InRange : Json → Prop
  | .num x => x.InRange
  | _ => True

instance : DecidablePred InRange
  | .num x => inferInstanceAs (Decidable x.InRange)
  | .null | .bool _ | .str _ | .arr _ | .obj _ => inferInstanceAs (Decidable True)

namespace Number

variable {x y : Number}

theorem exists_toDouble? (h : x.InRange) : ∃ d, x.toDouble? = some d := by
  cases x with
  | int i =>
    obtain ⟨hlow, hhigh⟩ := h
    exact Double.exists_ofInt? (by omega)
  | real d => exact ⟨d, rfl⟩

/-- Numbers in range are comparable. -/
theorem exists_compare? (hx : x.InRange) (hy : y.InRange) : ∃ o, x.compare? y = some o := by
  obtain ⟨d, hd⟩ := exists_toDouble? hx
  obtain ⟨e, he⟩ := exists_toDouble? hy
  exact ⟨d.compare e, by rw [compare?, hd, he]⟩

theorem compare?_swap (x y : Number) : (x.compare? y).map Ordering.swap = y.compare? x := by
  unfold compare?
  cases x.toDouble? with
  | none => cases y.toDouble? <;> rfl
  | some d =>
    cases y.toDouble? with
    | none => rfl
    | some e => exact congrArg some (Double.compare_swap d e)

/-- One and the same number is equal to itself by value. -/
theorem compare?_of_same (hy : y.InRange) (h : x.same y = true) : x.compare? y = some .eq := by
  obtain ⟨e, he⟩ := exists_toDouble? hy
  cases x with
  | int i =>
    cases y with
    | int j =>
      obtain rfl : i = j := by simpa [same] using h
      rw [compare?, he]
      exact congrArg some (Double.compare_eq_eq_iff.2 rfl)
    | real d => cases h
  | real c =>
    cases y with
    | int j => cases h
    | real d =>
      have hkey : c.key = d.key := by simpa [same] using h
      exact congrArg some (Double.compare_eq_eq_iff.2 hkey)

/-- Integers of 64 bits are compared by their 53 leading digits. -/
theorem compare?_int {i j : Int} (hi : InRange (.int i)) (hj : InRange (.int j)) :
    compare? (.int i) (.int j) = some (cmp (Double.rounded i) (Double.rounded j)) := by
  obtain ⟨x, hx⟩ := exists_toDouble? hi
  obtain ⟨y, hy⟩ := exists_toDouble? hj
  rw [compare?, hx, hy]
  exact congrArg some (Double.compare_ofInt? hx hy)

end Number

/-! ## Order and equality -/

variable {a b v path : Json}

/-- Two numbers or two strings. -/
inductive Comparable : Json → Json → Prop
  | numbers (x y : Number) : Comparable (.num x) (.num y)
  | strings (s t : String) : Comparable (.str s) (.str t)

theorem Comparable.symm (h : Comparable a b) : Comparable b a := by
  cases h with
  | numbers x y => exact .numbers y x
  | strings s t => exact .strings t s

theorem compareNames_eq_cmp (s t : String) : compareNames s t = cmp s t := by
  unfold compareNames
  rcases lt_trichotomy s t with h | h | h
  · rw [if_pos h, (cmp_eq_lt_iff s t).2 h]
  · rw [if_neg h.not_lt, if_pos h, (cmp_eq_eq_iff s t).2 h]
  · rw [if_neg h.not_gt, if_neg h.ne', (cmp_eq_gt_iff s t).2 h]

/-- Values of one comparable kind are in some order, numbers in range provided. -/
theorem exists_compare? (h : Comparable a b) (ha : a.InRange) (hb : b.InRange) : ∃ o, a.compare? b = some o := by
  cases h with
  | numbers x y => exact Number.exists_compare? ha hb
  | strings s t => exact ⟨compareNames s t, rfl⟩

theorem compare?_eq_none (h : ¬Comparable a b) : a.compare? b = none := by
  unfold compare?
  split
  · exact absurd (.numbers _ _) h
  · exact absurd (.strings _ _) h
  · rfl

/-- The order of two values, read from the other side. -/
theorem compare?_swap (a b : Json) : (a.compare? b).map Ordering.swap = b.compare? a := by
  by_cases h : Comparable a b
  · cases h with
    | numbers x y => exact Number.compare?_swap x y
    | strings s t =>
      have hswap : (compareNames s t).swap = compareNames t s := by
        rw [compareNames_eq_cmp, compareNames_eq_cmp, cmp_swap]
      exact congrArg some hswap
  · rw [compare?_eq_none h, compare?_eq_none fun h' => h h'.symm, Option.map_none]

/-- Values of one comparable kind are equal just if neither comes before the other. -/
theorem equals_of_comparable (h : Comparable a b) : a.equals b = (a.compare? b == some .eq) := by
  cases h with
  | numbers x y => rfl
  | strings s t =>
    have heq : compareNames s t = .eq ↔ s = t := by rw [compareNames_eq_cmp, cmp_eq_eq_iff]
    show (s == t) = (some (compareNames s t) == some .eq)
    rw [Bool.eq_iff_iff]
    simp [heq]

/-- Equal values are the same, or two numbers of one double. -/
theorem equals_iff (hb : b.InRange) :
    a.equals b = true ↔ a.same b = true ∨ ∃ x y, a = .num x ∧ b = .num y ∧ x.compare? y = some .eq := by
  cases a with
  | num x =>
    cases b with
    | num y =>
      show (x.compare? y == some .eq) = true ↔ x.same y = true ∨ _
      rw [beq_iff_eq]
      constructor
      · exact fun h => .inr ⟨x, y, rfl, rfl, h⟩
      · rintro (h | ⟨_, _, hx, hy, h⟩)
        · exact Number.compare?_of_same hb h
        · cases hx
          cases hy
          exact h
    | _ => exact ⟨.inl, fun h => h.elim id nofun⟩
  | _ => exact ⟨.inl, fun h => h.elim id nofun⟩

/-- The items of an array, the characters of a string or the fields of an object, counted. -/
inductive HasLength : Json → Nat → Prop
  | arr (items : List Json) : HasLength (.arr items) items.length
  | str (s : String) : HasLength (.str s) s.toList.length
  | obj (fields : List (String × Json)) : HasLength (.obj fields) fields.length

theorem length?_eq_some_iff {n : Nat} : v.length? = some n ↔ HasLength v n := by
  constructor
  · intro h
    cases v with
    | arr items => exact Option.some.inj h ▸ .arr items
    | str s => exact Option.some.inj h ▸ .str s
    | obj fields => exact Option.some.inj h ▸ .obj fields
    | _ => cases h
  · intro h
    cases h with
    | arr items => rfl
    | str s => rfl
    | obj fields => rfl

/-! ## Paths -/

/-- A path with one more index behind it; a key that is no array is a path of one step. -/
def extend (path : Json) (i : Nat) : Json :=
  match path with
  | .arr keys => .arr (keys ++ [.ofNat i])
  | key => .arr [key, .ofNat i]

theorem lookup?_extend (v path : Json) (i : Nat) :
    v.lookup? (path.extend i) = (v.lookup? path).bind fun found => found.step? (.ofNat i) := by
  have hkey : ∀ key : Json, [key, ofNat i].foldlM step? v = (v.step? key).bind fun found => found.step? (ofNat i) := by
    intro key
    simp [List.foldlM_cons]
  cases path with
  | arr keys =>
    show (keys ++ [ofNat i]).foldlM step? v = _
    simp [List.foldlM_append, lookup?]
  | _ => exact hkey _

/-- An index behind the path of an array leads to its item. -/
theorem lookup?_extend_of_arr {items : List Json} (h : v.lookup? path = some (.arr items)) (i : Nat) :
    v.lookup? (path.extend i) = items[i]? := by
  rw [lookup?_extend, h, Option.bind_some]
  simp [step?, ofNat]

end TaskFlow.Json
