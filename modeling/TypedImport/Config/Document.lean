import TypedImport.Number.Numeral
import TypedImport.Text.Hex

/-!
# Configuration documents

The TOML documents that a configuration file may be: keys with texts, whole numbers, truth values,
lists and tables, in any of TOML's spellings. No setting is a fraction or a date, so a document that
holds one is refused like one that is no TOML.

**Tables** are written in braces, under a header, or by dotted keys. A key is given once; a table that
was given in one of these ways is not given again in another, except that a header may follow the
headers of its own subtables.

**Recursion.** Nested values take a number of steps they may still make; the length of the text bounds
how many there are.
-/

namespace TypedImport

/-- How a table came to be. -/
inductive TableForm where
  /-- In braces. -/
  | inline
  /-- Named on the way of a dotted key. -/
  | dotted
  /-- Named on the way of a header. -/
  | implied
  /-- By a header of its own. -/
  | header
  deriving DecidableEq, Repr

/-- **A value of a document.** -/
inductive Toml where
  | string (s : String)
  /-- A whole number of 64 bits, with a sign. -/
  | integer (n : Int)
  | boolean (b : Bool)
  | array (items : List Toml)
  /-- Entries in the order they were given. -/
  | table (form : TableForm) (entries : List (String × Toml))
  deriving Inhabited, Repr

namespace Toml

/-- Blanks within a line. -/
def isSpace (c : Char) : Bool := c = ' ' || c = '\t'

/-- A text after its blanks. -/
def skipSpace (s : List Char) : List Char := s.dropWhile isSpace

/-- Characters of a key without quotes. -/
def isKeyChar (c : Char) : Bool := c.isAlphanum || c = '_' || c = '-'

/-- Control characters that stand in no comment and in no text. -/
def isControl (c : Char) : Bool := (c.toNat < 0x20 && c != '\t') || c.toNat = 0x7f

/-- What follows a line end, if the text begins with one. -/
def newline? : List Char → Option (List Char)
  | '\n' :: rest => some rest
  | '\r' :: '\n' :: rest => some rest
  | _ => none

/-- What follows a comment, which ends before a line end or with the text. -/
def skipComment : List Char → List Char
  | '#' :: rest => rest.dropWhile fun c => !(c.toNat < 0x20 && c != '\t')
  | s => s

/-- What follows blanks, comments and line ends. -/
def skipLines (s : List Char) : Nat → List Char
  | 0 => s
  | fuel + 1 =>
    match skipComment (skipSpace s) with
    | [] => []
    | rest =>
      match newline? rest with
      | some after => skipLines after fuel
      | none => rest

/-- The character of an escape that has just begun, and the rest. -/
def escape? : List Char → Option (Char × List Char)
  | 'b' :: rest => some ('\x08', rest)
  | 't' :: rest => some ('\t', rest)
  | 'n' :: rest => some ('\n', rest)
  | 'f' :: rest => some ('\x0c', rest)
  | 'r' :: rest => some ('\r', rest)
  | '"' :: rest => some ('"', rest)
  | '\\' :: rest => some ('\\', rest)
  | 'u' :: rest => unit 4 rest
  | 'U' :: rest => unit 8 rest
  | _ => none
where
  /-- A character by its code point in so many digits. -/
  unit (count : Nat) (s : List Char) : Option (Char × List Char) := do
    if s.length < count then none
    let n ← Hex.number? (s.take count)
    if n.isValidChar then return (Char.ofNat n, s.drop count) else none

/-- The rest of a one-line text in double quotes. -/
def basic? (done : List Char) (s : List Char) : Nat → Option (String × List Char)
  | 0 => none
  | fuel + 1 =>
    match s with
    | [] => none
    | '"' :: rest => some (String.ofList done.reverse, rest)
    | '\\' :: rest =>
      match escape? rest with
      | some (c, rest) => basic? (c :: done) rest fuel
      | none => none
    | c :: rest => if isControl c then none else basic? (c :: done) rest fuel

/-- The rest of a one-line text in single quotes. -/
def literal? (done : List Char) : List Char → Option (String × List Char)
  | [] => none
  | '\'' :: rest => some (String.ofList done.reverse, rest)
  | c :: rest => if isControl c then none else literal? (c :: done) rest

/-- The end of a text in triple quotes: up to two quotes before the three belong to the text. -/
def closing (quote : Char) (done : List Char) (s : List Char) : String × List Char :=
  let more := (s.takeWhile (· = quote)).take 2
  (String.ofList (more.reverse ++ done).reverse, s.drop more.length)

/-- The rest of a text in three double quotes. A backslash at the end of a line swallows the blanks and
line ends that follow. -/
def basicLines? (done : List Char) (s : List Char) : Nat → Option (String × List Char)
  | 0 => none
  | fuel + 1 =>
    match s with
    | [] => none
    | '"' :: '"' :: '"' :: rest => some (closing '"' done rest)
    | '\\' :: rest =>
      match escape? rest with
      | some (c, rest) => basicLines? (c :: done) rest fuel
      | none =>
        match newline? (skipSpace rest) with
        | some _ =>
          basicLines? done (rest.dropWhile fun c => isSpace c || c = '\n' || c = '\r') fuel
        | none => none
    | '\r' :: '\n' :: rest => basicLines? ('\n' :: done) rest fuel
    | c :: rest => if isControl c && c != '\n' then none else basicLines? (c :: done) rest fuel

/-- The rest of a text in three single quotes. -/
def literalLines? (done : List Char) : List Char → Option (String × List Char)
  | [] => none
  | '\'' :: '\'' :: '\'' :: rest => some (closing '\'' done rest)
  | '\r' :: '\n' :: rest => literalLines? ('\n' :: done) rest
  | c :: rest => if isControl c && c != '\n' then none else literalLines? (c :: done) rest

/-- A text at the front, in any of the four quotings. -/
def text? (s : List Char) : Option (String × List Char) :=
  let firstLine (rest : List Char) : List Char := (newline? rest).getD rest
  match s with
  | '"' :: '"' :: '"' :: rest => basicLines? [] (firstLine rest) (s.length + 1)
  | '"' :: rest => basic? [] rest (s.length + 1)
  | '\'' :: '\'' :: '\'' :: rest => literalLines? [] (firstLine rest)
  | '\'' :: rest => literal? [] rest
  | _ => none

def keyPart? (s : List Char) : Option (String × List Char) :=
  match s with
  | '"' :: rest => basic? [] rest (s.length + 1)
  | '\'' :: rest => literal? [] rest
  | _ =>
    match s.takeWhile isKeyChar with
    | [] => none
    | name => some (String.ofList name, s.dropWhile isKeyChar)

/-- A key: parts with dots between them. -/
def key? (s : List Char) : Nat → Option (List String × List Char)
  | 0 => none
  | fuel + 1 => do
    let (name, rest) ← keyPart? (skipSpace s)
    match skipSpace rest with
    | '.' :: rest =>
      let (names, rest) ← key? rest fuel
      return (name :: names, rest)
    | rest => return ([name], rest)

/-- Digits with single underscores between them. -/
def grouped (isDigit : Char → Bool) : List Char → Bool
  | [] => false
  | [c] => isDigit c
  | c :: '_' :: rest => isDigit c && grouped isDigit rest
  | c :: rest => isDigit c && grouped isDigit rest

/-- The number that digits spell in a base, underscores left out. -/
def inBase? (base : Nat) (digits : List Char) : Option Nat :=
  let isDigit (c : Char) : Bool := ((Hex.value? c).map fun d => decide (d < base)).getD false
  if grouped isDigit digits then
    some ((digits.filter (· != '_')).foldl (fun n c => n * base + (Hex.value? c).getD 0) 0)
  else none

/-- A whole number: decimal with a sign and no superfluous zero, or with a base and no sign. -/
def integer? (word : List Char) : Option Int :=
  let n : Option Int := match word with
    | '0' :: 'x' :: digits => (inBase? 16 digits).map Int.ofNat
    | '0' :: 'o' :: digits => (inBase? 8 digits).map Int.ofNat
    | '0' :: 'b' :: digits => (inBase? 2 digits).map Int.ofNat
    | word =>
      let (negative, digits) := Number.cutSign word
      if digits.head? = some '0' && 1 < digits.length then none
      else (inBase? 10 digits).map fun n => if negative then -(n : Int) else (n : Int)
  n.filter fun n => -(Nat.pow 2 63 : Int) ≤ n && n < Nat.pow 2 63

/-- The characters of a number or a truth value. -/
def isWordChar (c : Char) : Bool :=
  c.isAlphanum || c = '_' || c = '-' || c = '+' || c = '.' || c = ':'

/-- A number or a truth value at the front. -/
def word? (s : List Char) : Option (Toml × List Char) :=
  let word := s.takeWhile isWordChar
  let rest := s.dropWhile isWordChar
  if word = "true".toList then some (.boolean true, rest)
  else if word = "false".toList then some (.boolean false, rest)
  else (integer? word).map fun n => (.integer n, rest)

/-- The entries of a table with a value put at the end of a path. `dotted` tells whether the path is a
dotted key, which may not go through a table with a header. `none` is a key given twice. -/
def putAt? (dotted : Bool) (entries : List (String × Toml)) :
    List String → (Option Toml → Option Toml) → Option (List (String × Toml))
  | [], _ => none
  | [name], change => do
    let value ← change (entries.lookup name)
    if entries.any (·.1 = name) then
      return entries.map fun e => if e.1 = name then (name, value) else e
    else return entries ++ [(name, value)]
  | name :: path, change =>
    match entries.lookup name with
    | none => do
      let inner ← putAt? dotted [] path change
      return entries ++ [(name, .table (if dotted then .dotted else .implied) inner)]
    | some (.table form inner) => do
      if form = .inline || (dotted && form = .header) then none
      let inner ← putAt? dotted inner path change
      return entries.map fun e => if e.1 = name then (name, .table form inner) else e
    | some _ => none

/-- A value that is put only where there is none. -/
def onlyNew (value : Toml) : Option Toml → Option Toml
  | none => some value
  | some _ => none

/-- The table that a header makes: a new one, or one that headers of subtables have implied. -/
def underHeader : Option Toml → Option Toml
  | none => some (.table .header [])
  | some (.table .implied entries) => some (.table .header entries)
  | some _ => none

mutual

/-- A value at the front of a text. -/
def value? (s : List Char) : Nat → Option (Toml × List Char)
  | 0 => none
  | fuel + 1 =>
    match s with
    | '"' :: _ => (text? s).map fun (t, rest) => (.string t, rest)
    | '\'' :: _ => (text? s).map fun (t, rest) => (.string t, rest)
    | '[' :: rest => items? [] rest fuel
    | '\x7b' :: rest =>
      match skipSpace rest with
      | '\x7d' :: rest => some (.table .inline [], rest)
      | rest => entries? [] rest fuel
    | s => word? s

/-- The items of a list from one on, up to its bracket. -/
def items? (done : List Toml) (s : List Char) : Nat → Option (Toml × List Char)
  | 0 => none
  | fuel + 1 =>
    match skipLines s (s.length + 1) with
    | ']' :: rest => some (.array done.reverse, rest)
    | s =>
      match value? s fuel with
      | none => none
      | some (v, rest) =>
        match skipLines rest (rest.length + 1) with
        | ',' :: rest => items? (v :: done) rest fuel
        | ']' :: rest => some (.array (v :: done).reverse, rest)
        | _ => none

/-- The entries of a table in braces from one on, up to its brace. -/
def entries? (done : List (String × Toml)) (s : List Char) : Nat → Option (Toml × List Char)
  | 0 => none
  | fuel + 1 =>
    match key? s (s.length + 1) with
    | some (path, '=' :: rest) =>
      match value? (skipSpace rest) fuel with
      | none => none
      | some (v, rest) =>
        match putAt? true done path (onlyNew v) with
        | none => none
        | some done =>
          match skipSpace rest with
          | ',' :: rest => entries? done rest fuel
          | '\x7d' :: rest => some (.table .inline done, rest)
          | _ => none
    | _ => none

end

/-- What follows the end of a line after its last value: blanks, a comment, a line end. -/
def endLine? (s : List Char) : Option (List Char) :=
  match skipComment (skipSpace s) with
  | [] => some []
  | rest => newline? rest

/-- A value put at a path below the table of the last header. -/
def putBelow? (root : List (String × Toml)) (header path : List String) (v : Toml) :
    Option (List (String × Toml)) :=
  match header with
  | [] => putAt? true root path (onlyNew v)
  | header =>
    putAt? false root header fun
      | some (.table form inner) => (putAt? true inner path (onlyNew v)).map (.table form)
      | _ => none

/-- The entries of a document from a line on; `header` is the path of the last header. -/
def lines? (root : List (String × Toml)) (header : List String) (s : List Char) :
    Nat → Option (List (String × Toml))
  | 0 => none
  | fuel + 1 =>
    match skipLines s (s.length + 1) with
    | [] => some root
    | '[' :: '[' :: _ => none
    | '[' :: rest =>
      match key? rest (rest.length + 1) with
      | some (path, ']' :: rest) =>
        match putAt? false root path underHeader, endLine? rest with
        | some root, some rest => lines? root path rest fuel
        | _, _ => none
      | _ => none
    | s =>
      match key? s (s.length + 1) with
      | some (path, '=' :: rest) =>
        match value? (skipSpace rest) (2 * rest.length + 2) with
        | none => none
        | some (v, rest) =>
          match putBelow? root header path v, endLine? rest with
          | some root, some rest => lines? root header rest fuel
          | _, _ => none
      | _ => none

/-- **The entries of a document**, which may begin with a byte order mark. -/
def read? (s : List Char) : Option (List (String × Toml)) :=
  let s := match s with
    | '\ufeff' :: rest => rest
    | s => s
  lines? [] [] s (s.length + 1)

end Toml

end TypedImport
