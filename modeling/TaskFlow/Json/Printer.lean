import TaskFlow.Json.Basic
import TaskFlow.Number.Decimal

/-!
# JSON text

- `Json.compact`: a value on one line without blanks; `Json.pretty`: two blanks of indentation for each level;
- fields are written in the order they are held;
- doubles have the fewest digits that read back, positional from `1e-5` up to `1e15` and always with a fraction
  there, with an exponent outside.
-/

namespace TaskFlow

/-- `n` zeros. -/
def Decimal.zeros (n : Nat) : String := String.ofList (List.replicate n '0')

namespace Json

/-- Four lower-case hexadecimal digits of a control character. -/
def controlEscape (c : Char) : String :=
  let digits := Nat.toDigits 16 c.toNat
  "\\u" ++ Decimal.zeros (4 - digits.length) ++ String.ofList digits

/-- One character inside a string: quotes, backslashes and controls are escaped, all else is itself. -/
def escapeChar (c : Char) : String :=
  match c with
  | '"' => "\\\""
  | '\\' => "\\\\"
  | '\x08' => "\\b"
  | '\x0c' => "\\f"
  | '\n' => "\\n"
  | '\r' => "\\r"
  | '\t' => "\\t"
  | c => if c.toNat < 0x20 then controlEscape c else String.singleton c

def quote (s : String) : String := "\"" ++ String.join (s.toList.map escapeChar) ++ "\""

/-- Digits with a point after the first of them and the power of ten behind. -/
def scientific (digits : List Char) (e : Int) : String :=
  let lead := String.ofList (digits.take 1)
  let tail := if digits.length ≤ 1 then "" else "." ++ String.ofList (digits.drop 1)
  lead ++ tail ++ "e" ++ (if e < 0 then "-" else "+") ++ toString e.natAbs

/-- Digits with zeros up to the point and at least one digit behind it. -/
def positional (digits : List Char) (e : Int) : String :=
  if e < 0 then "0." ++ Decimal.zeros (e.natAbs - 1) ++ String.ofList digits
  else
    let whole := e.natAbs + 1
    let fraction := digits.drop whole
    String.ofList (digits.take whole) ++ Decimal.zeros (whole - digits.length) ++ "." ++
      (if fraction.isEmpty then "0" else String.ofList fraction)

/-- A double in the notation that its leading power of ten asks for. -/
def writeDouble (x : Double) : String :=
  let sign := if x.negative then "-" else ""
  if x.isZero then sign ++ "0.0"
  else
    let d := x.shortest .toEven
    let digits := Nat.toDigits 10 d.digits
    let e := d.exponent + digits.length - 1
    sign ++ if -5 ≤ e ∧ e ≤ 15 then positional digits e else scientific digits e

def Number.write : Number → String
  | .int i => toString i
  | .real x => writeDouble x

mutual

/-- A value on one line, without blanks. -/
def compact : Json → String
  | .null => "null"
  | .bool true => "true"
  | .bool false => "false"
  | .num n => n.write
  | .str s => quote s
  | .arr items => "[" ++ compactItems items ++ "]"
  | .obj fields => "\x7b" ++ compactFields fields ++ "\x7d"

def compactItems : List Json → String
  | [] => ""
  | [j] => compact j
  | j :: js => compact j ++ "," ++ compactItems js

def compactFields : List (String × Json) → String
  | [] => ""
  | [(k, j)] => quote k ++ ":" ++ compact j
  | (k, j) :: fs => quote k ++ ":" ++ compact j ++ "," ++ compactFields fs

end

/-- A new line at a level of indentation. -/
def newline (level : Nat) : String := "\n" ++ String.ofList (List.replicate (2 * level) ' ')

mutual

/-- A value over several lines; empty arrays and objects stay on one. -/
def prettyAt (level : Nat) : Json → String
  | .null => "null"
  | .bool true => "true"
  | .bool false => "false"
  | .num n => n.write
  | .str s => quote s
  | .arr items => if items.isEmpty then "[]" else "[" ++ prettyItems (level + 1) items ++ newline level ++ "]"
  | .obj fields =>
    if fields.isEmpty then "\x7b\x7d"
    else "\x7b" ++ prettyFields (level + 1) fields ++ newline level ++ "\x7d"

def prettyItems (level : Nat) : List Json → String
  | [] => ""
  | [j] => newline level ++ prettyAt level j
  | j :: js => newline level ++ prettyAt level j ++ "," ++ prettyItems level js

def prettyFields (level : Nat) : List (String × Json) → String
  | [] => ""
  | [(k, j)] => newline level ++ quote k ++ ": " ++ prettyAt level j
  | (k, j) :: fs => newline level ++ quote k ++ ": " ++ prettyAt level j ++ "," ++ prettyFields level fs

end

def pretty (j : Json) : String := prettyAt 0 j

end Json

end TaskFlow
