import TypedImport.Json.Value
import TypedImport.Number.Shortest
import TypedImport.Text.Hex
import TypedImport.Text.Split

/-!
# Writing values as JSON text

Two layouts: one line without blanks, and one with a line for each item and two blanks of indentation
a level. In both an empty list or object is a pair of brackets.

In a text the quote, the backslash and the control characters are escaped, with a letter where there
is one; all else stands as it is.
-/

namespace TypedImport.Json

/-- A character inside a quoted text. -/
def escape (c : Char) : List Char :=
  match c with
  | '"' => ['\\', '"']
  | '\\' => ['\\', '\\']
  | '\x08' => ['\\', 'b']
  | '\x0c' => ['\\', 'f']
  | '\n' => ['\\', 'n']
  | '\r' => ['\\', 'r']
  | '\t' => ['\\', 't']
  | c => if c.toNat < 0x20 then '\\' :: 'u' :: Hex.digits 4 c.toNat else [c]

def quote (s : String) : String :=
  String.ofList ('"' :: s.toList.flatMap escape ++ ['"'])

/-- The text of a value that is neither a list nor an object. -/
def scalar : Value → String
  | .null => "null"
  | .bool true => "true"
  | .bool false => "false"
  | .int n => toString n
  | .float x => x.text
  | .string s => quote s
  | .array _ => "[]"
  | .object _ => "\x7b\x7d"

mutual

/-- **A value on one line.** -/
def compact : Value → String
  | .array items => "[" ++ Text.join "," (compactItems items) ++ "]"
  | .object fields => "\x7b" ++ Text.join "," (compactFields fields) ++ "\x7d"
  | v => scalar v

/-- The items of a list, each on one line. -/
def compactItems : List Value → List String
  | [] => []
  | v :: rest => compact v :: compactItems rest

/-- The fields of an object, each on one line. -/
def compactFields : List (String × Value) → List String
  | [] => []
  | (name, v) :: rest => (quote name ++ ":" ++ compact v) :: compactFields rest

end

/-- The lines of a bracketed list of parts, each part given as its lines: a comma follows the last
line of every part but the last, and the parts stand two blanks further in. -/
def block (opening closing : String) (parts : List (List String)) : List String :=
  match parts with
  | [] => [opening ++ closing]
  | parts =>
    let last := parts.length - 1
    let inner := parts.mapIdx fun i part =>
      if i = last then part
      else part.dropLast ++ (part.getLast?.toList.map (· ++ ","))
    opening :: inner.flatten.map ("  " ++ ·) ++ [closing]

/-- A label in front of the first of some lines. -/
def labelled (label : String) : List String → List String
  | [] => []
  | line :: rest => (label ++ line) :: rest

mutual

/-- **A value on lines of its own.** -/
def prettyLines : Value → List String
  | .array items => block "[" "]" (prettyItems items)
  | .object fields => block "\x7b" "\x7d" (prettyFields fields)
  | v => [scalar v]

/-- The lines of each item of a list. -/
def prettyItems : List Value → List (List String)
  | [] => []
  | v :: rest => prettyLines v :: prettyItems rest

/-- The lines of each field of an object. -/
def prettyFields : List (String × Value) → List (List String)
  | [] => []
  | (name, v) :: rest => labelled (quote name ++ ": ") (prettyLines v) :: prettyFields rest

end

end TypedImport.Json
