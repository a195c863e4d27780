import TaskFlow.Number.Numeral

/-!
# Dates and times

- `Datetime`: a date, a time of day and an offset, each where the text has it;
- `Datetime.read?`: the value of a text of one of the four forms; days past the end of a month are refused, and the
  seconds may be left out;
- `Datetime.text`: the canonical text, with a capital `T` and no trailing zeros in the fraction.
-/

namespace TaskFlow

structure Date where
  year : Nat
  month : Nat
  day : Nat
deriving DecidableEq

structure TimeOfDay where
  hour : Nat
  minute : Nat
  second : Nat
  nanosecond : Nat
deriving DecidableEq

/-- The distance from universal time. -/
inductive Offset where
  | utc
  | minutes (n : Int)
deriving DecidableEq

structure Datetime where
  date : Option Date
  time : Option TimeOfDay
  offset : Option Offset
deriving DecidableEq

namespace Datetime

/-- A numeral with zeros in front up to a width. -/
def padded (width n : Nat) : String :=
  let digits := Nat.toDigits 10 n
  String.ofList (List.replicate (width - digits.length) '0' ++ digits)

def dateText (d : Date) : String := padded 4 d.year ++ "-" ++ padded 2 d.month ++ "-" ++ padded 2 d.day

def timeText (t : TimeOfDay) : String :=
  let fraction := ((padded 9 t.nanosecond).toList.reverse.dropWhile (· == '0')).reverse
  padded 2 t.hour ++ ":" ++ padded 2 t.minute ++ ":" ++ padded 2 t.second ++
    (if fraction.isEmpty then "" else "." ++ String.ofList fraction)

def offsetText : Offset → String
  | .utc => "Z"
  | .minutes n => (if n < 0 then "-" else "+") ++ padded 2 (n.natAbs / 60) ++ ":" ++ padded 2 (n.natAbs % 60)

/-- The canonical text. -/
def text (d : Datetime) : String :=
  let date := (d.date.map dateText).getD ""
  let time := (d.time.map timeText).getD ""
  let mark := if d.date.isSome && d.time.isSome then "T" else ""
  date ++ mark ++ time ++ (d.offset.map offsetText).getD ""

/-! ## Reading -/

def isLeap (year : Nat) : Bool := (year % 4 == 0 && year % 100 != 0) || year % 400 == 0

def daysIn (year month : Nat) : Nat :=
  if month = 2 then (if isLeap year then 29 else 28)
  else if month = 4 ∨ month = 6 ∨ month = 9 ∨ month = 11 then 30
  else 31

/-- The numeral of exactly `width` digits at the front. -/
def digits? (width : Nat) (cs : List Char) : Option (Nat × List Char) :=
  let front := cs.take width
  if front.length = width ∧ front.all Char.isDigit then some (Numeral.numeral 10 front, cs.drop width) else none

/-- The text behind an expected character. -/
def after? (c : Char) : List Char → Option (List Char)
  | d :: cs => if d = c then some cs else none
  | [] => none

def date? (cs : List Char) : Option (Date × List Char) := do
  let (year, cs) ← digits? 4 cs
  let cs ← after? '-' cs
  let (month, cs) ← digits? 2 cs
  let cs ← after? '-' cs
  let (day, cs) ← digits? 2 cs
  if 1 ≤ month ∧ month ≤ 12 ∧ 1 ≤ day ∧ day ≤ daysIn year month then some (⟨year, month, day⟩, cs) else none

/-- Billionths of a second from the digits of a fraction, those beyond the ninth dropped. -/
def nanoseconds (ds : List Char) : Nat :=
  Numeral.numeral 10 (ds.take 9) * Nat.pow 10 (9 - ds.length)

def fraction? : List Char → Option (Nat × List Char)
  | '.' :: cs =>
    let (ds, rest) := cs.span Char.isDigit
    if ds.isEmpty then none else some (nanoseconds ds, rest)
  | cs => some (0, cs)

/-- Seconds with their fraction behind a colon, or none of it. -/
def seconds? : List Char → Option (Nat × Nat × List Char)
  | ':' :: cs => do
    let (second, cs) ← digits? 2 cs
    let (nanosecond, cs) ← fraction? cs
    return (second, nanosecond, cs)
  | cs => some (0, 0, cs)

def time? (cs : List Char) : Option (TimeOfDay × List Char) := do
  let (hour, cs) ← digits? 2 cs
  let cs ← after? ':' cs
  let (minute, cs) ← digits? 2 cs
  let (second, nanosecond, cs) ← seconds? cs
  if hour ≤ 23 ∧ minute ≤ 59 ∧ second ≤ 60 then some (⟨hour, minute, second, nanosecond⟩, cs) else none

def offset? : List Char → Option (Option Offset)
  | [] => some none
  | [c] => if c = 'Z' ∨ c = 'z' then some (some .utc) else none
  | c :: cs => do
    if c ≠ '+' ∧ c ≠ '-' then none
    let (hours, cs) ← digits? 2 cs
    let cs ← after? ':' cs
    let (minutes, cs) ← digits? 2 cs
    if cs.isEmpty ∧ hours ≤ 23 ∧ minutes ≤ 59 then
      let n : Int := hours * 60 + minutes
      some (some (.minutes (if c = '-' then -n else n)))
    else none

/-- A date with or without a time behind it, or a time alone. -/
def read? (cs : List Char) : Option Datetime :=
  match date? cs with
  | some (date, []) => some ⟨some date, none, none⟩
  | some (date, mark :: cs) => do
    if mark ≠ 'T' ∧ mark ≠ 't' ∧ mark ≠ ' ' then none
    let (time, cs) ← time? cs
    let offset ← offset? cs
    return ⟨some date, some time, offset⟩
  | none => do
    let (time, cs) ← time? cs
    if cs.isEmpty then some ⟨none, some time, none⟩ else none

end Datetime

end TaskFlow
