import TaskFlow.Text.Graphic

/-!
# Quoted names in messages

- `quote`: a name between double quotes, quotes, backslashes and characters without a mark of their own escaped;
- `quoteList`, `quoteSet`: names between square brackets or braces, separated by a comma and a blank.
-/

namespace TaskFlow.Text

/-- Lower-case hexadecimal numeral. -/
def hex (n : Nat) : String := String.ofList (Nat.toDigits 16 n)

/-- One character inside quotes. -/
def quoteChar (c : Char) : String :=
  match c with
  | '"' => "\\\""
  | '\\' => "\\\\"
  | '\n' => "\\n"
  | '\r' => "\\r"
  | '\t' => "\\t"
  | '\x00' => "\\0"
  | c => if isGraphic c then String.singleton c else "\\u\x7b" ++ hex c.toNat ++ "\x7d"

def quote (s : String) : String :=
  "\"" ++ String.join (s.toList.map quoteChar) ++ "\""

def quoteList (names : List String) : String :=
  "[" ++ ", ".intercalate (names.map quote) ++ "]"

def quoteSet (names : List String) : String :=
  "\x7b" ++ ", ".intercalate (names.map quote) ++ "\x7d"

end TaskFlow.Text
