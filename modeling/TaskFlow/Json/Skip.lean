import TaskFlow.Json.Basic
import TaskFlow.Number.Numeral

/-!
# Passing over JSON text

- `skip?`: the text behind a value that is not read. The value is well formed, but its strings may hold any escaped
  code unit, its numbers may be of any size and its containers may nest to any depth: the open ones are a list.
-/

namespace TaskFlow.Json

def isBlank (c : Char) : Bool := c == ' ' || c == '\n' || c == '\t' || c == '\r'

def skipBlanks (cs : List Char) : List Char := cs.dropWhile isBlank

/-- The character that a backslash and `c` stand for. -/
def shortEscape? (c : Char) : Option Char :=
  match c with
  | '"' => some '"'
  | '\\' => some '\\'
  | '/' => some '/'
  | 'b' => some '\x08'
  | 'f' => some '\x0c'
  | 'n' => some '\n'
  | 'r' => some '\r'
  | 't' => some '\t'
  | _ => none

/-! ## Scalars -/

/-- The text behind the closing quote of a string. -/
def skipString? : List Char → Option (List Char)
  | [] => none
  | '"' :: cs => some cs
  | '\\' :: 'u' :: a :: b :: c :: d :: cs => if [a, b, c, d].all (Numeral.isDigit 16) then skipString? cs else none
  | '\\' :: e :: cs => if (shortEscape? e).isSome then skipString? cs else none
  | c :: cs => if c.toNat < 0x20 then none else skipString? cs

/-- The text behind one digit or more. -/
def skipDigits? (cs : List Char) : Option (List Char) :=
  let (ds, rest) := cs.span Char.isDigit
  if ds.isEmpty then none else some rest

def skipSign : List Char → List Char
  | '-' :: cs | '+' :: cs => cs
  | cs => cs

def skipExponent? : List Char → Option (List Char)
  | 'e' :: cs | 'E' :: cs => skipDigits? (skipSign cs)
  | cs => some cs

def skipFraction? : List Char → Option (List Char)
  | '.' :: cs => skipDigits? cs
  | cs => some cs

/-- The whole part of a number has no leading zero. -/
def skipWhole? : List Char → Option (List Char)
  | '0' :: c :: cs => if c.isDigit then none else some (c :: cs)
  | cs => skipDigits? cs

def skipNumber? (cs : List Char) : Option (List Char) := do
  let cs ← skipWhole? cs
  let cs ← skipFraction? cs
  skipExponent? cs

def skipScalar? : List Char → Option (List Char)
  | 'n' :: 'u' :: 'l' :: 'l' :: cs => some cs
  | 't' :: 'r' :: 'u' :: 'e' :: cs => some cs
  | 'f' :: 'a' :: 'l' :: 's' :: 'e' :: cs => some cs
  | '"' :: cs => skipString? cs
  | '-' :: cs => skipNumber? cs
  | cs => skipNumber? cs

/-! ## Containers -/

inductive Container where
  | array
  | object
deriving DecidableEq

def Container.closing : Container → Char
  | array => ']'
  | object => '\x7d'

/-- The text from the value of an item on: behind the key and the colon in an object. -/
def skipKey? : Container → List Char → Option (List Char)
  | .array, cs => some cs
  | .object, '"' :: cs =>
    match (skipString? cs).map skipBlanks with
    | some (':' :: cs) => some (skipBlanks cs)
    | _ => none
  | .object, _ => none

/-- What comes next: a value, the first item of the innermost container, or what may follow a value. -/
inductive Skip where
  | value
  | opened
  | behind

/-- The text behind a value inside open containers, the innermost first; `n` bounds the steps. -/
def skipFrom? : Nat → Skip → List Container → List Char → Option (List Char)
  | 0, _, _, _ => none
  | n + 1, .value, outer, cs =>
    match cs with
    | '[' :: rest => skipFrom? n .opened (.array :: outer) rest
    | '\x7b' :: rest => skipFrom? n .opened (.object :: outer) rest
    | cs =>
      match skipScalar? cs with
      | some rest => skipFrom? n .behind outer rest
      | none => none
  | _ + 1, .opened, [], _ => none
  | n + 1, .opened, c :: outer, cs =>
    match skipBlanks cs with
    | [] => none
    | d :: rest =>
      if d = c.closing then skipFrom? n .behind outer rest
      else
        match skipKey? c (d :: rest) with
        | some rest => skipFrom? n .value (c :: outer) rest
        | none => none
  | _ + 1, .behind, [], cs => some cs
  | n + 1, .behind, c :: outer, cs =>
    match skipBlanks cs with
    | [] => none
    | d :: rest =>
      if d = c.closing then skipFrom? n .behind outer rest
      else if d = ',' then
        match skipKey? c (skipBlanks rest) with
        | some rest => skipFrom? n .value (c :: outer) rest
        | none => none
      else none

/-- The text behind a value that starts at once. -/
def skip? (cs : List Char) : Option (List Char) := skipFrom? (2 * cs.length + 2) .value [] cs

end TaskFlow.Json
