import TaskFlow.Toml.Bare
import TaskFlow.Toml.Tree

/-!
# Reading TOML documents

- `Toml.parse?`: the table of a document, none when the text is malformed, defines something twice, has a key of
  more than 80 parts or nests arrays and inline tables more than 80 deep;
- a document is a list of statements on lines of their own, each a header or a key and its value; `Line` is what one
  says. Inside arrays and inline tables lines may end and comments stand wherever a blank may, but not in a key.
-/

namespace TaskFlow.Toml

/-! ## Keys -/

def isBareKeyChar (c : Char) : Bool := c.isAlphanum || c == '_' || c == '-'

/-- One part of a key. -/
def keyPart? : Reader String
  | '"' :: cs => string? false ('"' :: cs)
  | '\x27' :: cs => string? false ('\x27' :: cs)
  | cs =>
    let (word, rest) := cs.span isBareKeyChar
    if word.isEmpty then none else some (String.ofList word, rest)

/-- The parts of a key, with the blanks behind it passed over; `n` bounds their number. -/
def keyParts? : Nat → Reader (List String)
  | 0, _ => none
  | n + 1, cs => do
    let (part, rest) ← keyPart? (skipBlanks cs)
    match skipBlanks rest with
    | '.' :: rest =>
      let (parts, rest) ← keyParts? n rest
      return (part :: parts, rest)
    | rest => return ([part], rest)

/-- A key of at most 80 parts. -/
def key? : Reader (List String) := keyParts? 80

/-- A key with its value below a tree, the last part of the key apart. -/
def assignKey? (header key : List String) (value : Toml) (tree : Tree) : Option Tree := do
  let last ← key.getLast?
  Tree.assign? header key.dropLast last value tree

/-! ## Values -/

/-- The items of an array behind its opening bracket; lines may end between them. -/
def arrayTail? (item : Reader Toml) (n : Nat) : Nat → Reader (List Toml)
  | 0, _ => none
  | m + 1, cs => do
    let rest ← skipLines? (n + 1) cs
    match rest with
    | ']' :: rest => return ([], rest)
    | rest =>
      let (value, rest) ← item rest
      let rest ← skipLines? (n + 1) rest
      match rest with
      | ',' :: rest =>
        let (values, rest) ← arrayTail? item n m rest
        return (value :: values, rest)
      | ']' :: rest => return ([value], rest)
      | _ => none

/-- The fields of an inline table behind its opening brace; lines may end around keys and values. -/
def inlineTail? (item : Reader Toml) (n : Nat) : Nat → Tree → Reader Tree
  | 0, _, _ => none
  | m + 1, tree, cs => do
    let rest ← skipLines? (n + 1) cs
    match rest with
    | '\x7d' :: rest => return (tree, rest)
    | rest =>
      let (key, rest) ← key? rest
      match ← skipLines? (n + 1) rest with
      | '=' :: rest =>
        let (value, rest) ← item (← skipLines? (n + 1) rest)
        let tree ← assignKey? [] key value tree
        match ← skipLines? (n + 1) rest with
        | ',' :: rest => inlineTail? item n m tree rest
        | '\x7d' :: rest => return (tree, rest)
        | _ => none
      | _ => none

/-- A value; `depth` counts the containers still allowed, `n` bounds the parts of each. -/
def value? (n : Nat) : Nat → Reader Toml
  | 0, _ => none
  | depth + 1, cs =>
    match cs with
    | '"' :: rest => (string? true ('"' :: rest)).map fun (s, rest) => (.str s, rest)
    | '\x27' :: rest => (string? true ('\x27' :: rest)).map fun (s, rest) => (.str s, rest)
    | '[' :: rest =>
      if depth = 0 then none
      else (arrayTail? (value? n depth) n (n + 1) rest).map fun (values, rest) => (.arr values, rest)
    | '\x7b' :: rest =>
      if depth = 0 then none
      else
        (inlineTail? (value? n depth) n (n + 1) [] rest).map fun (tree, rest) => (.table (finishFields tree), rest)
    | cs => do
      let (text, rest) := bareText cs
      let value ← bare? text
      return (value, rest)

/-- Arrays and inline tables may nest 80 deep. -/
def depthLimit : Nat := 81

/-! ## Lines -/

/-- What a line of a document says. -/
inductive Line where
  | empty
  | assign (key : List String) (value : Toml)
  | header (key : List String)
  | item (key : List String)

/-- The content of a line without its comment. -/
def line? (n : Nat) : Reader Line
  | '[' :: '[' :: cs => do
    let (key, rest) ← key? cs
    match rest with
    | ']' :: ']' :: rest => return (.item key, rest)
    | _ => none
  | '[' :: cs => do
    let (key, rest) ← key? cs
    match rest with
    | ']' :: rest => return (.header key, rest)
    | _ => none
  | [] => some (.empty, [])
  | c :: cs =>
    if c = '#' ∨ c = '\n' ∨ c = '\r' then some (.empty, c :: cs)
    else do
      let (key, rest) ← key? (c :: cs)
      match rest with
      | '=' :: rest =>
        let (value, rest) ← value? n depthLimit (skipBlanks rest)
        return (.assign key value, rest)
      | _ => none

/-- The lines of a document; `n` bounds their number and the parts of each. -/
def lines? (n : Nat) : Nat → List Char → Option (List Line)
  | 0, _ => none
  | m + 1, cs => do
    let (line, rest) ← line? n (skipBlanks cs)
    let rest ← skipComment? (skipBlanks rest)
    match rest with
    | [] => return [line]
    | rest =>
      let rest ← newline? rest
      let lines ← lines? n m rest
      return line :: lines

/-- The tree and the current table after a line. -/
def Line.apply? (state : Tree × List String) : Line → Option (Tree × List String)
  | .empty => some state
  | .assign key value => (assignKey? state.2 key value state.1).map fun tree => (tree, state.2)
  | .header key => do
    let last ← key.getLast?
    let tree ← Tree.openTable? key.dropLast last state.1
    return (tree, key)
  | .item key => do
    let last ← key.getLast?
    let tree ← Tree.openItem? key.dropLast last state.1
    return (tree, key)

/-- The text without a byte order mark. -/
def dropMark : List Char → List Char
  | '\ufeff' :: cs => cs
  | cs => cs

/-- The fields of a document. -/
def parse? (s : String) : Option (List (String × Toml)) := do
  let cs := dropMark s.toList
  let lines ← lines? cs.length (cs.length + 1) cs
  let (tree, _) ← lines.foldlM Line.apply? ([], [])
  return finishFields tree

end TaskFlow.Toml
