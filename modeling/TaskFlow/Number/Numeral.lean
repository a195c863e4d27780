/-!
# Numerals

- `digit?`: the value of a digit in bases up to sixteen, letters in either case;
- `numeral`: the number that a list of digits writes in a base; characters that are no digit are passed over.
-/

namespace TaskFlow.Numeral

/-- The value of a hexadecimal digit. -/
def digit? (c : Char) : Option Nat :=
  if '0' ≤ c ∧ c ≤ '9' then some (c.toNat - '0'.toNat)
  else if 'a' ≤ c ∧ c ≤ 'f' then some (c.toNat - 'a'.toNat + 10)
  else if 'A' ≤ c ∧ c ≤ 'F' then some (c.toNat - 'A'.toNat + 10)
  else none

/-- Whether `c` is a digit in a base up to sixteen. -/
def isDigit (base : Nat) (c : Char) : Bool :=
  match digit? c with
  | some d => d < base
  | none => false

def numeral (base : Nat) (cs : List Char) : Nat :=
  cs.foldl (fun n c => match digit? c with | some d => base * n + d | none => n) 0

end TaskFlow.Numeral
