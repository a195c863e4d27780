import TaskFlow.Number.Double

/-!
# Scaled doubles

- `Double.scaled?`: a significand times a power of ten in two roundings, one for the significand and one for the
  product. This is quicker than the nearest double of the exact value and may miss it by one place.
-/

namespace TaskFlow.Double

/-- The largest power of ten that is a double. -/
def topPower : Nat := 308

/-- A power of ten, rounded. -/
def powerOfTen? (k : Nat) : Option Double := nearest? false (Nat.pow 10 k) 1

/-- Divided by `10 ^ 308` until the exponent is within reach or nothing is left. -/
def scaleDown? (x : Double) (e : Int) : Option Double :=
  if e < -308 then
    if x.isZero then some x
    else do
      let top ← powerOfTen? topPower
      let y ← x.over? top
      scaleDown? y (e + 308)
  else do
    let power ← powerOfTen? e.natAbs
    x.over? power
termination_by (-e).toNat
decreasing_by omega

/-- The significand times `10 ^ e`; none beyond the largest double. -/
def scaled? (negative : Bool) (significand : Nat) (e : Int) : Option Double := do
  let x ← nearest? negative significand 1
  if 0 ≤ e then
    if x.isZero then some x
    else if (topPower : Int) < e then none
    else do
      let power ← powerOfTen? e.natAbs
      x.times? power
  else scaleDown? x e

end TaskFlow.Double
