import TaskFlow.Number.Numeral
import TaskFlow.Toml.Lexeme

/-!
# TOML values without quotes

- `bareText`: the text of such a value. It ends before a mark, a comment, a line end and a string; blanks inside it
  belong to it, as in a date with a time;
- `bare?`: booleans, integers in the bases 2, 8, 10 and 16, floats, dates and times. Single underscores may stand
  between digits (`isParted`);
- a text with the form of a number but no value is `void`: the mark of a base without digits, a float beyond the
  doubles, and decimal digits with an underscore and something else behind them.
-/

namespace TaskFlow.Toml

/-! ## The text of a value -/

/-- Characters that end a value without quotes. -/
def isMark (c : Char) : Bool :=
  c == '=' || c == ',' || c == '[' || c == ']' || c == '\x7b' || c == '\x7d' || c == '#' || c == '\n' || c == '\r'

/-- The text up to a mark, or up to quotes behind a blank. -/
def beforeMark : Bool → List Char → List Char
  | _, [] => []
  | behindBlank, c :: cs =>
    if isMark c || (behindBlank && (c == '"' || c == '\x27')) then [] else c :: beforeMark (isBlank c) cs

/-- The text of a value without quotes, and what follows it. -/
def bareText (cs : List Char) : List Char × List Char :=
  let text := ((beforeMark false cs).reverse.dropWhile isBlank).reverse
  (text, cs.drop text.length)

/-! ## Digits -/

/-- Whether each underscore stands between two digits; `behindDigit` tells what stands before the text. -/
def isPartedFrom (isDigit : Char → Bool) : Bool → List Char → Bool
  | _, [] => true
  | behindDigit, c :: cs =>
    if c = '_' then behindDigit && cs.head?.any isDigit && isPartedFrom isDigit false cs
    else isPartedFrom isDigit (isDigit c) cs

/-- Whether each underscore stands between two digits. -/
def isParted (isDigit : Char → Bool) (cs : List Char) : Bool := isPartedFrom isDigit false cs

/-- The digits of a text without the underscores; none when it holds anything else. -/
def digits? (base : Nat) (cs : List Char) : Option (List Char) :=
  let ds := cs.filter (· != '_')
  if ds.all (Numeral.isDigit base) then some ds else none

/-- Decimal digits, at least one of them. -/
def someDigits? (cs : List Char) : Option (List Char) := (digits? 10 cs).filter fun ds => !ds.isEmpty

/-- The sign in front and the text behind it. -/
def signed : List Char → Bool × List Char
  | '-' :: cs => (true, cs)
  | '+' :: cs => (false, cs)
  | cs => (false, cs)

/-! ## Numbers -/

/-- An integer behind the mark of its base. -/
def based? (base : Nat) (cs : List Char) : Option Toml :=
  if isParted (Numeral.isDigit base) cs then
    (digits? base cs).map fun ds => if ds.isEmpty then .void else .int (Numeral.numeral base ds)
  else none

/-- A decimal integer. Beside an underscore a hexadecimal digit is as good as a decimal one, but has no value. -/
def decimal? (cs : List Char) : Option Toml :=
  let (negative, body) := signed cs
  let leadingZero := body.head? == some '0' && body.length != 1
  if body.isEmpty || leadingZero || !isParted (Numeral.isDigit 16) cs then none
  else match digits? 10 body with
    | some ds =>
      let n : Int := Numeral.numeral 10 ds
      some (.int (if negative then -n else n))
    | none => some .void

/-- The parts of a float: before the point, behind it, and behind the exponent mark. -/
def floatParts (cs : List Char) : List Char × Option (List Char) × Option (List Char) :=
  let isMark (c : Char) : Bool := c == 'e' || c == 'E'
  let (mantissa, power) := cs.span fun c => !isMark c
  let (whole, fraction) := mantissa.span (· ≠ '.')
  (whole, if fraction.isEmpty then none else some (fraction.drop 1),
    if power.isEmpty then none else some (power.drop 1))

/-- The power of ten behind an exponent mark. -/
def power? (cs : List Char) : Option Int := do
  let (down, cs) := signed cs
  let n : Int := Numeral.numeral 10 (← someDigits? cs)
  return if down then -n else n

/-- A float: a fraction or an exponent or both behind the whole part. -/
def float? (cs : List Char) : Option Toml := do
  let (negative, body) := signed cs
  let (whole, fraction, power) := floatParts body
  let leadingZero := whole.head? == some '0' && (whole.filter (· != '_')).length != 1
  if leadingZero || !isParted (Numeral.isDigit 10) cs then none
  let whole ← someDigits? whole
  let fraction ← match fraction with
    | some cs => someDigits? cs
    | none => some []
  let e ← match power with
    | some cs => power? cs
    | none => some 0
  return match Double.ofDecimal? negative (Numeral.numeral 10 (whole ++ fraction)) (e - fraction.length) with
    | some x => .real (.finite x)
    | none => .void

/-! ## Values -/

/-- A date, a time or a decimal number; what stands behind the first digits tells them apart. -/
def dateOrNumber? (cs : List Char) : Option Toml :=
  let behind := (signed cs).2.dropWhile (Numeral.isDigit 10)
  if behind.head?.any fun c => c == '-' || c == ':' then (Datetime.read? cs).map .datetime
  else if behind.contains ' ' then none
  else if behind.any fun c => c == '.' || c == 'e' || c == 'E' then float? cs
  else if behind.head?.all (· == '_') then decimal? cs
  else none

/-- The value of a text without quotes. -/
def bare? (cs : List Char) : Option Toml :=
  let (negative, body) := signed cs
  if cs = "true".toList then some (.bool true)
  else if cs = "false".toList then some (.bool false)
  else if body = "inf".toList then some (.real (.infinite negative))
  else if body = "nan".toList then some (.real (.notANumber negative))
  else match cs with
    | '0' :: 'x' :: cs => based? 16 cs
    | '0' :: 'o' :: cs => based? 8 cs
    | '0' :: 'b' :: cs => based? 2 cs
    | cs => dateOrNumber? cs

end TaskFlow.Toml
