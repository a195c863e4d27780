import TaskFlow.Json.Draft
import TaskFlow.Json.Skip
import TaskFlow.Number.Scaled
import TaskFlow.Number.Word

/-!
# Reading JSON text

- `Draft.parse?`: the draft of a text, none when the text is malformed. Fields stay in the order of the text,
  repeated keys included; containers below 127 others are passed over and left void;
- `Json.parse?` and `Json.read?`: the value of a text; in the second every object is sorted by key, the last value of
  a repeated key winning;
- integers outside `-2^63 .. 2^64-1` and `-0` become doubles.
-/

namespace TaskFlow.Json

/-- What a reader leaves of the text behind the value it found. -/
abbrev Reader (α : Type) := List Char → Option (α × List Char)

/-! ## Strings -/

/-- How far an escape has been read; `high` is a leading surrogate that waits for its partner. -/
inductive Escape where
  | outside
  | begun
  | digits (left value : Nat) (high : Option Nat)
  | partner (high : Nat)
  | partnerBegun (high : Nat)

def isHighSurrogate (n : Nat) : Bool := 0xd800 ≤ n && n < 0xdc00

def isLowSurrogate (n : Nat) : Bool := 0xdc00 ≤ n && n < 0xe000

/-- What four hexadecimal digits give: a character, or a leading surrogate to be completed. -/
def codeUnit? (n : Nat) : Option Nat → Option (Char ⊕ Nat)
  | some high =>
    if isLowSurrogate n then some (.inl (Char.ofNat (0x10000 + (high - 0xd800) * 0x400 + (n - 0xdc00)))) else none
  | none =>
    if isHighSurrogate n then some (.inr n)
    else if isLowSurrogate n then none
    else some (.inl (Char.ofNat n))

/-- The rest of a string up to its closing quote; `acc` holds the characters so far, last first. -/
def stringTail : Escape → List Char → List Char → Option (String × List Char)
  | _, _, [] => none
  | .outside, acc, c :: cs =>
    if c = '"' then some (String.ofList acc.reverse, cs)
    else if c = '\\' then stringTail .begun acc cs
    else if c.toNat < 0x20 then none
    else stringTail .outside (c :: acc) cs
  | .begun, acc, c :: cs =>
    if c = 'u' then stringTail (.digits 4 0 none) acc cs
    else match shortEscape? c with
      | some e => stringTail .outside (e :: acc) cs
      | none => none
  | .digits left value high, acc, c :: cs =>
    match Numeral.digit? c with
    | none => none
    | some d =>
      let value := 16 * value + d
      if 1 < left then stringTail (.digits (left - 1) value high) acc cs
      else match codeUnit? value high with
        | some (.inl e) => stringTail .outside (e :: acc) cs
        | some (.inr h) => stringTail (.partner h) acc cs
        | none => none
  | .partner high, acc, c :: cs => if c = '\\' then stringTail (.partnerBegun high) acc cs else none
  | .partnerBegun high, acc, c :: cs => if c = 'u' then stringTail (.digits 4 0 (some high)) acc cs else none

/-! ## Numbers -/

/-- The number that a run of digits adds to; digits that no longer fit a 64-bit word are only counted. -/
def takeDigits (significand : Nat) : List Char → Nat × Nat × Nat
  | [] => (significand, 0, 0)
  | c :: cs =>
    let next := 10 * significand + (c.toNat - '0'.toNat)
    if next < UInt64.size then
      let (s, kept, dropped) := takeDigits next cs
      (s, kept + 1, dropped)
    else (significand, 0, cs.length + 1)

/-- The exponent behind `e`; none when no digit follows. -/
def exponentTail : Reader Int
  | cs =>
    let (negative, cs) := match cs with
      | '-' :: r => (true, r)
      | '+' :: r => (false, r)
      | r => (false, r)
    let (ds, rest) := cs.span Char.isDigit
    if ds.isEmpty then none
    else
      let n := Numeral.numeral 10 ds
      some (if negative then -(n : Int) else n, rest)

/-- A number; `negative` tells of a sign before the text. -/
def number (negative : Bool) : Reader Number
  | cs => do
    let (whole, rest) := cs.span Char.isDigit
    if whole.isEmpty || (whole.length != 1 && whole.head? == some '0') then none
    let (significand, _, dropped) := takeDigits 0 whole
    let (fraction, rest, point) := match rest with
      | '.' :: r => let (ds, r') := r.span Char.isDigit; (ds, r', true)
      | r => ([], r, false)
    if point && fraction.isEmpty then none
    let (significand, kept, _) := takeDigits significand fraction
    let (e, rest, power) ← match rest with
      | 'e' :: r | 'E' :: r => (exponentTail r).map fun (e, r') => (e, r', true)
      | r => some (0, r, false)
    if point || power || dropped ≠ 0 then
      let x ← Double.scaled? negative significand ((dropped : Int) - kept + e)
      return (.real x, rest)
    else if negative then
      if significand = 0 || Word.half < significand then
        let x ← Double.nearest? true significand 1
        return (.real x, rest)
      else return (.int (-(significand : Int)), rest)
    else return (.int significand, rest)

/-! ## Values -/

/-- Items parted by commas up to the closing character; `n` bounds their number. -/
def itemsTail {α : Type} (item : Reader α) (close : Char) : Nat → Reader (List α)
  | 0, _ => none
  | n + 1, cs =>
    match item (skipBlanks cs) with
    | none => none
    | some (a, rest) =>
      match skipBlanks rest with
      | [] => none
      | c :: rest =>
        if c = close then some ([a], rest)
        else if c = ',' then (itemsTail item close n rest).map fun (as, rest) => (a :: as, rest)
        else none

/-- The items of a container whose opening character has been read. -/
def container {α : Type} (item : Reader α) (close : Char) (n : Nat) (cs : List Char) : Option (List α × List Char) :=
  match skipBlanks cs with
  | [] => none
  | c :: rest => if c = close then some ([], rest) else itemsTail item close n (c :: rest)

/-- A field: a string, a colon and a value. -/
def member (item : Reader Draft) : Reader (String × Draft)
  | '"' :: cs => do
    let (k, rest) ← stringTail .outside [] cs
    match skipBlanks rest with
    | ':' :: rest =>
      let (d, rest) ← item (skipBlanks rest)
      return ((k, d), rest)
    | _ => none
  | _ => none

/-- A value whose own parts are read by `item`, while containers are `allowed`; `n` bounds the items of each. -/
def readWith (item : Reader Draft) (n : Nat) (allowed : Bool) : Reader Draft
  | 'n' :: 'u' :: 'l' :: 'l' :: rest => some (.null, rest)
  | 't' :: 'r' :: 'u' :: 'e' :: rest => some (.bool true, rest)
  | 'f' :: 'a' :: 'l' :: 's' :: 'e' :: rest => some (.bool false, rest)
  | '"' :: rest => (stringTail .outside [] rest).map fun (s, rest) => (.str s, rest)
  | '[' :: rest => if allowed then (container item ']' n rest).map fun (ds, rest) => (.arr ds, rest) else none
  | '\x7b' :: rest =>
    if allowed then (container (member item) '\x7d' n rest).map fun (fs, rest) => (.obj fs, rest) else none
  | '-' :: rest => (number true rest).map fun (x, rest) => (.num x, rest)
  | rest => (number false rest).map fun (x, rest) => (.num x, rest)

/-- A draft that starts at once; `depth` counts the containers still allowed. -/
def draftAt (n : Nat) : Nat → Reader Draft
  | 0, _ => none
  | depth + 1, cs =>
    match readWith (draftAt n depth) n (depth != 0) cs with
    | some found => some found
    | none => (skip? cs).map fun rest => (.void, rest)

/-- Containers may nest 127 deep. -/
def depthLimit : Nat := 128

/-- The draft of a text, its fields in the order of the text. -/
def Draft.parse? (s : String) : Option Draft :=
  let cs := s.toList
  match draftAt cs.length depthLimit (skipBlanks cs) with
  | some (d, rest) => if (skipBlanks rest).isEmpty then some d else none
  | none => none

/-- The value of a text, its fields in the order of the text. -/
def parse? (s : String) : Option Json := (Draft.parse? s).bind Draft.value?

/-- The value of a text, its objects sorted by key. -/
def read? (s : String) : Option Json := (parse? s).map normalize

end TaskFlow.Json
