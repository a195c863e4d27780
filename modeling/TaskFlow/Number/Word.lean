/-!
# Checked arithmetic on 64-bit words

- `checkedAdd`, `checkedMul`: the sum or the product of two words, absent when it is no word;
- `toNat_checkedAdd`, `toNat_checkedMul`: through naturals they are the exact operations cut off at `UInt64.size`.
-/

namespace TaskFlow.Word

/-- A natural number as a word, where it is one. -/
def ofNat? (n : Nat) : Option UInt64 :=
  if n < UInt64.size then some (UInt64.ofNat n) else none

/-- The words below it are those without the top bit. -/
def half : Nat := UInt64.size / 2

def checkedAdd (a b : UInt64) : Option UInt64 := ofNat? (a.toNat + b.toNat)

def checkedMul (a b : UInt64) : Option UInt64 := ofNat? (a.toNat * b.toNat)

theorem toNat_ofNat? (n : Nat) : (ofNat? n).map UInt64.toNat = if n < UInt64.size then some n else none := by
  unfold ofNat?
  split
  · rename_i h
    simpa using Nat.mod_eq_of_lt h
  · rfl

theorem toNat_checkedAdd (a b : UInt64) :
    (checkedAdd a b).map UInt64.toNat = if a.toNat + b.toNat < UInt64.size then some (a.toNat + b.toNat) else none :=
  toNat_ofNat? _

theorem toNat_checkedMul (a b : UInt64) :
    (checkedMul a b).map UInt64.toNat = if a.toNat * b.toNat < UInt64.size then some (a.toNat * b.toNat) else none :=
  toNat_ofNat? _

end TaskFlow.Word
