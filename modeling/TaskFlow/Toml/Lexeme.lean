import TaskFlow.Number.Numeral
import TaskFlow.Toml.Basic

/-!
# Lexemes of TOML text

- strings of the four kinds, a multi-line one with its line ends as they stand but for one behind the opening quotes;
- blanks, comments and line ends.
-/

namespace TaskFlow.Toml

/-- What a reader leaves of the text behind what it found. -/
abbrev Reader (α : Type) := List Char → Option (α × List Char)

/-! ## Between lexemes -/

def isBlank (c : Char) : Bool := c == ' ' || c == '\t'

def skipBlanks (cs : List Char) : List Char := cs.dropWhile isBlank

/-- Controls other than the tab, which no part of a document may hold. -/
def isControl (c : Char) : Bool := (c.toNat < 0x20 && c ≠ '\t') || c.toNat = 0x7f

/-- The text from the end of a line on, when only an allowed comment stands before it. -/
def skipComment? : List Char → Option (List Char)
  | '#' :: cs =>
    let rest := cs.dropWhile fun c => !isControl c
    match rest with
    | [] => some []
    | '\n' :: _ => some rest
    | '\r' :: '\n' :: _ => some rest
    | _ => none
  | cs => some cs

/-- The text behind a line end. -/
def newline? : List Char → Option (List Char)
  | '\n' :: cs => some cs
  | '\r' :: '\n' :: cs => some cs
  | _ => none

/-- The text behind blanks, comments and line ends; `n` bounds the number of lines. -/
def skipLines? : Nat → List Char → Option (List Char)
  | 0, _ => none
  | n + 1, cs => do
    let rest ← skipComment? (skipBlanks cs)
    match newline? rest with
    | some rest => skipLines? n rest
    | none => some rest

/-! ## Strings -/

/-- How far an escape has been read. Behind a backslash at the end of a line blanks and lines are passed over. -/
inductive Escape where
  | outside
  | begun
  | digits (left value : Nat)
  | lineEnd
  | passing

/-- What one character of a string does: the state and the characters so far, or the end of the string together
with the number of quotes behind the character that belong to it. -/
inductive StringStep where
  | next (state : Escape) (acc : List Char)
  | close (acc : List Char) (quotes : Nat)
  | fail

/-- The character that a backslash and `c` stand for. -/
def shortEscape? (c : Char) : Option Char :=
  match c with
  | 'b' => some '\x08'
  | 'e' => some '\x1b'
  | 't' => some '\t'
  | 'n' => some '\n'
  | 'f' => some '\x0c'
  | 'r' => some '\r'
  | '"' => some '"'
  | '\\' => some '\\'
  | _ => none

/-- A Unicode scalar value as a character. -/
def scalar? (n : Nat) : Option Char :=
  if n < 0xd800 ∨ (0xe000 ≤ n ∧ n < 0x110000) then some (Char.ofNat n) else none

/-- Quotes at the front, at most `limit` of them. -/
def leadingQuotes (q : Char) (limit : Nat) (cs : List Char) : Nat :=
  ((cs.take limit).takeWhile (· == q)).length

/-- A quote inside a string: the end of it, or a part of it when fewer than three stand together. -/
def quoteStep (q : Char) (multiline : Bool) (acc rest : List Char) : StringStep :=
  if !multiline then .close acc 0
  else
    let more := leadingQuotes q 4 rest
    if more < 2 then .next .outside (q :: acc) else .close (List.replicate (more - 2) q ++ acc) more

/-- A line end or another control inside a string. -/
def controlStep (multiline : Bool) (acc : List Char) (c : Char) (rest : List Char) : StringStep :=
  if !multiline then .fail
  else if c = '\n' then .next .outside ('\n' :: acc)
  else if c = '\r' ∧ rest.head? = some '\n' then .next .outside ('\r' :: acc)
  else .fail

def outsideStep (multiline : Bool) (acc : List Char) (c : Char) (rest : List Char) : StringStep :=
  if c = '"' then quoteStep '"' multiline acc rest
  else if c = '\\' then .next .begun acc
  else if isControl c then controlStep multiline acc c rest
  else .next .outside (c :: acc)

/-- Whether a carriage return belongs to a line end. -/
def isReturn (c : Char) (rest : List Char) : Bool := c == '\r' && rest.head? == some '\n'

def stringStep (multiline : Bool) : Escape → List Char → Char → List Char → StringStep
  | .outside, acc, c, rest => outsideStep multiline acc c rest
  | .begun, acc, c, rest =>
    if c = 'x' then .next (.digits 2 0) acc
    else if c = 'u' then .next (.digits 4 0) acc
    else if c = 'U' then .next (.digits 8 0) acc
    else match shortEscape? c with
      | some e => .next .outside (e :: acc)
      | none =>
        if !multiline then .fail
        else if c = '\n' then .next .passing acc
        else if isBlank c || isReturn c rest then .next .lineEnd acc
        else .fail
  | .digits left value, acc, c, _ =>
    match Numeral.digit? c with
    | none => .fail
    | some d =>
      let value := 16 * value + d
      if 1 < left then .next (.digits (left - 1) value) acc
      else match scalar? value with
        | some e => .next .outside (e :: acc)
        | none => .fail
  | .lineEnd, acc, c, rest =>
    if c = '\n' then .next .passing acc
    else if isBlank c || isReturn c rest then .next .lineEnd acc
    else .fail
  | .passing, acc, c, rest =>
    if c = '\n' || isBlank c || isReturn c rest then .next .passing acc else outsideStep multiline acc c rest

/-- The rest of a string with escapes up to its closing quotes. -/
def basicTail (multiline : Bool) : Escape → List Char → Reader String
  | _, _, [] => none
  | state, acc, c :: rest =>
    match stringStep multiline state acc c rest with
    | .next state acc => basicTail multiline state acc rest
    | .close acc quotes => some (String.ofList acc.reverse, rest.drop quotes)
    | .fail => none

/-- The rest of a string without escapes up to its closing quotes. -/
def literalTail (multiline : Bool) : List Char → Reader String
  | _, [] => none
  | acc, c :: rest =>
    let step :=
      if c = '\x27' then quoteStep '\x27' multiline acc rest
      else if isControl c then controlStep multiline acc c rest
      else .next .outside (c :: acc)
    match step with
    | .next _ acc => literalTail multiline acc rest
    | .close acc quotes => some (String.ofList acc.reverse, rest.drop quotes)
    | .fail => none

/-- The text behind a line end that follows opening quotes at once. -/
def dropNewline (cs : List Char) : List Char := (newline? cs).getD cs

/-- A string of any kind; keys are on one line. -/
def string? (multiline : Bool) : Reader String
  | '"' :: '"' :: '"' :: cs => if multiline then basicTail true .outside [] (dropNewline cs) else none
  | '"' :: cs => basicTail false .outside [] cs
  | '\x27' :: '\x27' :: '\x27' :: cs => if multiline then literalTail true [] (dropNewline cs) else none
  | '\x27' :: cs => literalTail false [] cs
  | _ => none

end TaskFlow.Toml
