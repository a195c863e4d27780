import TaskFlow.Number.Double

/-!
# Shortest decimals

- `Decimal`: a natural number of digits times a power of ten;
- `Tie`: where a value goes that lies half-way between two others;
- `Double.shortest`: of the decimals that round to a double, one with the fewest digits, and of those the nearest.
-/

namespace TaskFlow

/-- The value `digits * 10 ^ exponent`. -/
structure Decimal where
  digits : Nat
  exponent : Int
deriving DecidableEq, Repr

namespace Decimal

/-- The same value without trailing zeros among its digits. -/
def trim : Nat → Decimal → Decimal
  | 0, d => d
  | n + 1, d => if d.digits ≠ 0 ∧ d.digits % 10 = 0 then trim n ⟨d.digits / 10, d.exponent + 1⟩ else d

end Decimal

/-- Which neighbour a value half-way between two others goes to. -/
inductive Tie where
  | toEven
  | away
deriving DecidableEq

/-- The natural nearest to `num / den`. -/
def Tie.round : Tie → Nat → Nat → Nat
  | toEven, num, den => Double.roundHalfEven num den
  | away, num, den => (2 * num + den) / (2 * den)

namespace Double

/-- Digits in the decimal numeral of `n`. -/
def width (n : Nat) : Nat := (Nat.toDigits 10 n).length

/-- The power of ten of the first digit of `num / den`. -/
def leadingPlace (num den : Nat) : Int :=
  let k : Int := (width num : Int) - width den
  if den * Nat.pow 10 k.toNat ≤ num * Nat.pow 10 (-k).toNat then k else k - 1

/-- The two ends of the values that round to `x`, over the common denominator `4 * x.magnitude.2`. -/
def roundingEnds (x : Double) : Nat × Nat :=
  let unit := Nat.pow 2 x.exponent.toNat
  let num := 4 * x.magnitude.1
  if x.significand = Nat.pow 2 52 ∧ -1074 < x.exponent then (num - unit, num + 2 * unit)
  else (num - 2 * unit, num + 2 * unit)

/-- Whether `n * 10 ^ e` rounds to `x`; the ends do so when the significand is even. -/
def isNamedBy (x : Double) (n : Nat) (e : Int) : Bool :=
  let value := n * Nat.pow 10 e.toNat * (4 * x.magnitude.2)
  let (low, high) := x.roundingEnds
  let low := low * Nat.pow 10 (-e).toNat
  let high := high * Nat.pow 10 (-e).toNat
  if x.significand % 2 = 0 then low ≤ value && value ≤ high else low < value && value < high

/-- The best decimal whose last digit stands at the power `e`, if one rounds to `x`. -/
def onGrid? (x : Double) (tie : Tie) (e : Int) : Option Decimal :=
  let num := x.magnitude.1 * Nat.pow 10 (-e).toNat
  let den := x.magnitude.2 * Nat.pow 10 e.toNat
  let low := num / den
  let near := tie.round num den
  let far := if near = low then low + 1 else low
  if x.isNamedBy near e then some ⟨near, e⟩
  else if x.isNamedBy far e then some ⟨far, e⟩
  else none

/-- Grids tried from one digit on; seventeen digits always name the double. -/
def shortestFrom (x : Double) (tie : Tie) (lead : Int) : Nat → Nat → Decimal
  | 0, _ => ⟨0, 0⟩
  | tries + 1, n =>
    match x.onGrid? tie (lead - n) with
    | some d => d.trim 20
    | none => shortestFrom x tie lead tries (n + 1)

/-- The fewest digits that read back as the magnitude of `x`. -/
def shortest (x : Double) (tie : Tie) : Decimal :=
  if x.isZero then ⟨0, 0⟩ else shortestFrom x tie (leadingPlace x.magnitude.1 x.magnitude.2) 18 0

end Double

end TaskFlow
