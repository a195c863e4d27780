/-!
# Finite binary doubles

- `Double`: a sign and the 63 exponent-and-fraction bits read as a number, so magnitudes compare as their bits do;
- `Double.nearest?`: the double nearest to a quotient of naturals, a tie going to the even significand;
- `Double.compare`: the order of the values, in which the two zeros are equal (`compare_eq_eq_iff`).
-/

namespace TaskFlow

/-- A finite IEEE 754 binary64 number. -/
structure Double where
  negative : Bool
  bits : Nat
  finite : bits < 2047 * Nat.pow 2 52 := by decide
deriving DecidableEq

namespace Double

instance : Inhabited Double := ⟨⟨false, 0, by decide⟩⟩

def zero (negative : Bool) : Double := ⟨negative, 0, by decide⟩

def isZero (x : Double) : Bool := x.bits == 0

/-- The value without its sign is `significand * 2 ^ exponent`. -/
def significand (x : Double) : Nat :=
  if x.bits < Nat.pow 2 52 then x.bits else Nat.pow 2 52 + x.bits % Nat.pow 2 52

def exponent (x : Double) : Int :=
  if x.bits < Nat.pow 2 52 then -1074 else (x.bits / Nat.pow 2 52 : Nat) - 1075

/-- Numerator and denominator of `m * 2 ^ q`. -/
def scaledPair (m : Nat) (q : Int) : Nat × Nat :=
  (m * Nat.pow 2 q.toNat, Nat.pow 2 (-q).toNat)

/-- Numerator and denominator of the value without its sign. -/
def magnitude (x : Double) : Nat × Nat := scaledPair x.significand x.exponent

/-- The natural nearest to `num / den`, a half going to the even neighbour. -/
def roundHalfEven (num den : Nat) : Nat :=
  let q := num / den
  let r := num % den
  if 2 * r < den then q else if den < 2 * r then q + 1 else q + q % 2

/-- The exponent of the last place kept of `num / den`: 53 binary digits, fewer below `2 ^ -1022`. -/
def lastPlace (num den : Nat) : Int :=
  let q := max ((num.log2 : Int) - den.log2 - 53) (-1074)
  if num * Nat.pow 2 (-q).toNat / (den * Nat.pow 2 q.toNat) < Nat.pow 2 53 then q else q + 1

/-- The double nearest to `num / den`, none when the quotient rounds beyond the largest one. -/
def nearest? (negative : Bool) (num den : Nat) : Option Double :=
  if num = 0 then some (zero negative)
  else
    let q := lastPlace num den
    let m := roundHalfEven (num * Nat.pow 2 (-q).toNat) (den * Nat.pow 2 q.toNat)
    let bits := (q + 1074).toNat * Nat.pow 2 52 + m
    if h : bits < 2047 * Nat.pow 2 52 then some ⟨negative, bits, h⟩ else none

def ofInt? (i : Int) : Option Double := nearest? (decide (i < 0)) i.natAbs 1

/-- The double nearest to `digits * 10 ^ e`; where the powers of two around it settle the answer, the power of ten
is not computed. -/
def ofDecimal? (negative : Bool) (digits : Nat) (e : Int) : Option Double :=
  let width : Int := digits.log2
  if digits = 0 || (e < 0 && 1000 * (width + 1) + 3321 * e < -1076000) then some (zero negative)
  else if 0 < e && 1024000 ≤ 1000 * width + 3321 * e then none
  else nearest? negative (digits * Nat.pow 10 e.toNat) (Nat.pow 10 (-e).toNat)

/-- Product of the magnitudes, rounded. -/
def times? (x y : Double) : Option Double :=
  nearest? x.negative (x.magnitude.1 * y.magnitude.1) (x.magnitude.2 * y.magnitude.2)

/-- Quotient of the magnitudes, rounded. -/
def over? (x y : Double) : Option Double :=
  nearest? x.negative (x.magnitude.1 * y.magnitude.2) (x.magnitude.2 * y.magnitude.1)

/-- The position of a double on the line of values. -/
def key (x : Double) : Int := if x.negative then -(x.bits : Int) else x.bits

/-- The order of the values. -/
def compare (x y : Double) : Ordering :=
  if x.key < y.key then .lt else if x.key = y.key then .eq else .gt

theorem compare_eq_eq_iff {x y : Double} : x.compare y = .eq ↔ x.key = y.key := by
  unfold compare
  split
  · rename_i h; exact ⟨fun h' => (nomatch h'), fun h' => absurd h' (Int.ne_of_lt h)⟩
  · split <;> simp_all

theorem compare_swap (x y : Double) : (x.compare y).swap = y.compare x := by
  unfold compare
  rcases Int.lt_trichotomy x.key y.key with h | h | h
  · simp [h, Int.not_lt.2 (Int.le_of_lt h), Int.ne_of_gt h]
  · simp [h]
  · simp [h, Int.not_lt.2 (Int.le_of_lt h), Int.ne_of_gt h]

end Double

end TaskFlow
