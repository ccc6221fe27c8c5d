/-!
# Numerals

Decimal numerals as they stand in fields, keys and files: whole numbers with or without a sign, and
decimal numerals with a point and an exponent. Only the ASCII digits are digits.

A numeral is read as a whole or not at all; no blank, separator or suffix is skipped.
-/

namespace TypedImport.Number

/-- The number that a list of digits spells; `none` if it is empty or holds another character. -/
def natOfDigits? (s : List Char) : Option Nat :=
  if s.isEmpty || !s.all Char.isDigit then none
  else some (s.foldl (fun n c => n * 10 + (c.toNat - 48)) 0)

/-- A leading sign and the rest: whether the sign was a minus. -/
def cutSign : List Char → Bool × List Char
  | '-' :: rest => (true, rest)
  | '+' :: rest => (false, rest)
  | s => (false, s)

/-- **A whole number with an optional sign.** -/
def int? (s : List Char) : Option Int :=
  match cutSign s with
  | (negative, rest) =>
    (natOfDigits? rest).map fun n => if negative then -(n : Int) else (n : Int)

/-- A whole number with an optional sign, if a signed 64-bit word holds it. -/
def int64? (s : List Char) : Option Int :=
  (int? s).filter fun n => -(Nat.pow 2 63 : Int) ≤ n && n < Nat.pow 2 63

/-- **A number below `limit`**, with an optional plus. A minus is refused, also before zero. -/
def natBelow? (limit : Nat) (s : List Char) : Option Nat :=
  let digits := match s with
    | '+' :: rest => rest
    | s => s
  (natOfDigits? digits).filter (· < limit)

/-- **A decimal numeral**: `digits · 10 ^ exponent`, with a sign that zero has too. -/
structure Decimal where
  negative : Bool
  digits : Nat
  exponent : Int
  deriving DecidableEq, Repr

/-- The exponent part of a numeral: nothing, or a mark followed by a whole number. -/
def exponent? : List Char → Option Int
  | [] => some 0
  | c :: rest => if c = 'e' || c = 'E' then int? rest else none

/-- **Reads a decimal numeral**: a sign, digits with at most one point among them, at least one digit
in all, and an exponent. -/
def Decimal.ofChars? (s : List Char) : Option Decimal :=
  let (negative, s) := cutSign s
  let whole := s.takeWhile Char.isDigit
  let rest := s.dropWhile Char.isDigit
  let (fraction, rest) := match rest with
    | '.' :: rest => (rest.takeWhile Char.isDigit, rest.dropWhile Char.isDigit)
    | rest => ([], rest)
  do
    let digits ← natOfDigits? (whole ++ fraction)
    let exponent ← exponent? rest
    return ⟨negative, digits, exponent - fraction.length⟩

/-- How many decimal digits a number has; zero has one. -/
def digitCount (n : Nat) : Nat :=
  (Nat.toDigits 10 n).length

end TypedImport.Number
