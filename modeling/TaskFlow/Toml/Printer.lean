import TaskFlow.Number.Decimal
import TaskFlow.Toml.Basic

/-!
# TOML values as text

- `Toml.write`: a value on one line, as it would stand behind a key;
- strings stand between the plainest quotes that hold them: double, single, three double, three single; escapes
  only where none of these does;
- floats are written without an exponent and always with a fraction, a tie between two shortest texts going to the
  greater magnitude.
-/

namespace TaskFlow.Toml

/-! ## Strings -/

/-- The longest run of a character. -/
def longestRun (q : Char) : Nat → Nat → List Char → Nat
  | best, run, [] => max best run
  | best, run, c :: cs => if c = q then longestRun q best (run + 1) cs else longestRun q (max best run) 0 cs

/-- Controls that no quotes hold unescaped; tabs and line feeds are held. -/
def isHardControl (c : Char) : Bool :=
  (c.toNat < 0x20 && c ≠ '\t' && c ≠ '\n') || c.toNat = 0x7f

/-- Four upper-case hexadecimal digits. -/
def unicodeEscape (c : Char) : String :=
  let digits := (Nat.toDigits 16 c.toNat).map Char.toUpper
  "\\u" ++ String.ofList (List.replicate (4 - digits.length) '0' ++ digits)

/-- Characters between double quotes; of `allowed` quotes in a row none is escaped, a line feed only outside
multi-line quotes. -/
def escape (multiline : Bool) : Nat → List Char → String
  | _, [] => ""
  | run, c :: cs =>
    let allowed := if multiline then 2 else 0
    match c with
    | '"' =>
      if run < allowed then "\"" ++ escape multiline (run + 1) cs else "\\\"" ++ escape multiline 0 cs
    | '\\' => "\\\\" ++ escape multiline 0 cs
    | '\x08' => "\\b" ++ escape multiline 0 cs
    | '\t' => "\\t" ++ escape multiline 0 cs
    | '\n' => (if multiline then "\n" else "\\n") ++ escape multiline 0 cs
    | '\x0c' => "\\f" ++ escape multiline 0 cs
    | '\r' => "\\r" ++ escape multiline 0 cs
    | c =>
      (if c.toNat < 0x20 ∨ c.toNat = 0x7f then unicodeEscape c else String.singleton c) ++ escape multiline 0 cs

/-- A string between the plainest quotes that hold it. -/
def writeString (s : String) : String :=
  let cs := s.toList
  let doubles := longestRun '"' 0 0 cs
  let singles := longestRun '\x27' 0 0 cs
  let hard := cs.any isHardControl
  let backslash := cs.any (· == '\\')
  let lines := cs.any (· == '\n')
  let lineFeed := if lines then "\n" else ""
  if !hard && !backslash && doubles = 0 && !lines then "\"" ++ escape false 0 cs ++ "\""
  else if !hard && singles = 0 && !lines then "'" ++ s ++ "'"
  else if !hard && !backslash && doubles ≤ 2 then "\"\"\"" ++ lineFeed ++ escape true 0 cs ++ "\"\"\""
  else if !hard && singles ≤ 2 then "'''" ++ lineFeed ++ s ++ "'''"
  else if lines then "\"\"\"" ++ lineFeed ++ escape true 0 cs ++ "\"\"\""
  else "\"" ++ escape false 0 cs ++ "\""

/-! ## Numbers -/

/-- A finite float without an exponent. -/
def writeDouble (x : Double) : String :=
  let sign := if x.negative then "-" else ""
  if x.isZero then sign ++ "0.0"
  else
    let d := x.shortest .away
    let digits := Nat.toDigits 10 d.digits
    let zeros (n : Nat) : List Char := List.replicate n '0'
    let body :=
      if 0 ≤ d.exponent then String.ofList (digits ++ zeros d.exponent.toNat) ++ ".0"
      else
        let places := d.exponent.natAbs
        let padded := zeros (places + 1 - digits.length) ++ digits
        String.ofList (padded.take (padded.length - places)) ++ "." ++
          String.ofList (padded.drop (padded.length - places))
    sign ++ body

def writeReal : Real → String
  | .finite x => writeDouble x
  | .infinite negative => if negative then "-inf" else "inf"
  | .notANumber negative => if negative then "-nan" else "nan"

/-! ## Values -/

def isBareChar (c : Char) : Bool := c.isAlphanum || c = '-' || c = '_'

/-- A key without quotes where that is possible. -/
def writeKey (k : String) : String :=
  if !k.isEmpty && k.toList.all isBareChar then k
  else
    let cs := k.toList
    let hard := cs.any fun c => isHardControl c || c == '\n'
    if !hard && !cs.any (fun c => c == '\\' || c == '"') then "\"" ++ escape false 0 cs ++ "\""
    else if !hard && !cs.any (· == '\x27') then "'" ++ k ++ "'"
    else "\"" ++ escape false 0 cs ++ "\""

mutual

/-- A value on one line. -/
def write : Toml → String
  | .void => "nan"
  | .str s => writeString s
  | .int i => toString i
  | .real x => writeReal x
  | .bool b => if b then "true" else "false"
  | .datetime d => d.text
  | .arr items => "[" ++ writeItems items ++ "]"
  | .table fields => if fields.isEmpty then "\x7b\x7d" else "\x7b " ++ writeFields fields ++ " \x7d"

def writeItems : List Toml → String
  | [] => ""
  | [t] => write t
  | t :: ts => write t ++ ", " ++ writeItems ts

def writeFields : List (String × Toml) → String
  | [] => ""
  | [(k, t)] => writeKey k ++ " = " ++ write t
  | (k, t) :: fs => writeKey k ++ " = " ++ write t ++ ", " ++ writeFields fs

end

end TaskFlow.Toml
