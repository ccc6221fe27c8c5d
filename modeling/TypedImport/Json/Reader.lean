import TypedImport.Json.Number
import TypedImport.Text.Hex

/-!
# Reading JSON text

A text is one value with blanks around it. Texts hold no raw control characters; an escape that is
half of a surrogate pair must be followed by the other half. Of two fields with one name the last
counts. Lists and objects nest at most 127 deep.

**Recursion.** A reader step takes a number of steps it may still make; the length of the text bounds
how many there are, and `Json.read?` grants that many.
-/

namespace TypedImport.Json

/-- The deepest nesting of lists and objects. -/
def maxDepth : Nat := 127

/-- The blanks between the parts of a text. -/
def isSpace (c : Char) : Bool :=
  c = ' ' || c = '\n' || c = '\t' || c = '\r'

/-- The text after its blanks. -/
def skipSpace (s : List Char) : List Char :=
  s.dropWhile isSpace

/-- Four hexadecimal digits. -/
def unit? : List Char → Option (Nat × List Char)
  | a :: b :: c :: d :: rest => (Hex.number? [a, b, c, d]).map fun n => (n, rest)
  | _ => none

/-- The character of an escape that has just begun with `\u`: one unit, or two that are a surrogate
pair. -/
def unitEscape? (s : List Char) : Option (Char × List Char) := do
  let (n, s) ← unit? s
  if 0xdc00 ≤ n && n ≤ 0xdfff then none
  else if 0xd800 ≤ n && n ≤ 0xdbff then
    match s with
    | '\\' :: 'u' :: s =>
      let (m, s) ← unit? s
      if 0xdc00 ≤ m && m ≤ 0xdfff then
        return (Char.ofNat (0x10000 + (n - 0xd800) * 0x400 + (m - 0xdc00)), s)
      else none
    | _ => none
  else return (Char.ofNat n, s)

/-- The character that a one-letter escape stands for. -/
def letterEscape? : Char → Option Char
  | '"' => some '"'
  | '\\' => some '\\'
  | '/' => some '/'
  | 'b' => some '\x08'
  | 'f' => some '\x0c'
  | 'n' => some '\n'
  | 'r' => some '\r'
  | 't' => some '\t'
  | _ => none

/-- The rest of a text after its opening quote; `done` holds the characters read, last first. -/
def readString? (done : List Char) (s : List Char) : Nat → Option (String × List Char)
  | 0 => none
  | fuel + 1 =>
    match s with
    | [] => none
    | '"' :: rest => some (String.ofList done.reverse, rest)
    | '\\' :: 'u' :: rest =>
      match unitEscape? rest with
      | none => none
      | some (c, rest) => readString? (c :: done) rest fuel
    | '\\' :: e :: rest =>
      match letterEscape? e with
      | none => none
      | some c => readString? (c :: done) rest fuel
    | c :: rest => if c.toNat < 0x20 || c = '\\' then none else readString? (c :: done) rest fuel

/-- A given word at the front of a text. -/
def word? (word : List Char) (value : Value) (s : List Char) : Option (Value × List Char) :=
  if word.isPrefixOf s then some (value, s.drop word.length) else none

mutual

/-- A value at the front of a text without blanks; lists and objects may nest `depth` deep. -/
def readValue? (depth : Nat) (s : List Char) : Nat → Option (Value × List Char)
  | 0 => none
  | fuel + 1 =>
    match s with
    | [] => none
    | 'n' :: _ => word? "null".toList .null s
    | 't' :: _ => word? "true".toList (.bool true) s
    | 'f' :: _ => word? "false".toList (.bool false) s
    | '"' :: rest => (readString? [] rest (rest.length + 1)).map fun (t, rest) => (.string t, rest)
    | '[' :: rest =>
      match depth with
      | 0 => none
      | depth + 1 =>
        match skipSpace rest with
        | ']' :: rest => some (.array [], rest)
        | rest => readItems? depth [] rest fuel
    | '{' :: rest =>
      match depth with
      | 0 => none
      | depth + 1 =>
        match skipSpace rest with
        | '}' :: rest => some (.object [], rest)
        | rest => readFields? depth [] rest fuel
    | _ => do
      let (n, rest) ← Numeral.read? s
      let value ← n.value?
      return (value, rest)

/-- The items of a list from one on, up to its bracket; `done` holds those before, last first. -/
def readItems? (depth : Nat) (done : List Value) (s : List Char) :
    Nat → Option (Value × List Char)
  | 0 => none
  | fuel + 1 =>
    match readValue? depth s fuel with
    | none => none
    | some (v, rest) =>
      match skipSpace rest with
      | ',' :: rest => readItems? depth (v :: done) (skipSpace rest) fuel
      | ']' :: rest => some (.array (v :: done).reverse, rest)
      | _ => none

/-- The fields of an object from one on, up to its brace; `done` holds those before. -/
def readFields? (depth : Nat) (done : Fields) (s : List Char) : Nat → Option (Value × List Char)
  | 0 => none
  | fuel + 1 =>
    match s with
    | '"' :: rest =>
      match readString? [] rest (rest.length + 1) with
      | none => none
      | some (name, rest) =>
        match skipSpace rest with
        | ':' :: rest =>
          match readValue? depth (skipSpace rest) fuel with
          | none => none
          | some (v, rest) =>
            match skipSpace rest with
            | ',' :: rest => readFields? depth (done.insert name v) (skipSpace rest) fuel
            | '}' :: rest => some (.object (done.insert name v), rest)
            | _ => none
        | _ => none
    | _ => none

end

/-- **Reads a text as one value.** -/
def read? (s : List Char) : Option Value := do
  let (value, rest) ← readValue? maxDepth (skipSpace s) (2 * s.length + 2)
  if (skipSpace rest).isEmpty then return value else none

end TypedImport.Json
