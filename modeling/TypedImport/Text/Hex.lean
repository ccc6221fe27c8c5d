import TypedImport.Text.Utf8

/-!
# Hexadecimal text

Two lowercase digits a byte, and sixteen digits for a 64-bit word.
-/

namespace TypedImport.Hex

/-- The lowercase digit of a number below 16. -/
def digit (n : Nat) : Char :=
  if n < 10 then Char.ofNat (48 + n) else Char.ofNat (87 + n)

/-- The value of a digit, in either case. -/
def value? (c : Char) : Option Nat :=
  if '0' ≤ c && c ≤ '9' then some (c.toNat - 48)
  else if 'a' ≤ c && c ≤ 'f' then some (c.toNat - 87)
  else if 'A' ≤ c && c ≤ 'F' then some (c.toNat - 55)
  else none

/-- The two digits of a byte. -/
def ofByte (b : UInt8) : List Char :=
  [digit (b.toNat / 16), digit (b.toNat % 16)]

/-- The digits of a list of bytes. -/
def ofBytes (bytes : Bytes) : String :=
  String.ofList (bytes.flatMap ofByte)

/-- The last `count` hexadecimal digits of a number, first digit first. -/
def digits : Nat → Nat → List Char
  | 0, _ => []
  | count + 1, n => digits count (n / 16) ++ [digit (n % 16)]

/-- The sixteen digits of a word. -/
def ofWord (w : UInt64) : String :=
  String.ofList (digits 16 w.toNat)

/-- The number that a list of digits spells, if all are digits. -/
def number? (s : List Char) : Option Nat :=
  s.foldl (fun n c => n.bind fun n => (value? c).map fun d => n * 16 + d) (some 0)

/-- The bytes that pairs of digits spell. -/
def bytes? : List Char → Option Bytes
  | [] => some []
  | a :: b :: rest => do
    let high ← value? a
    let low ← value? b
    let tail ← bytes? rest
    return UInt8.ofNat (high * 16 + low) :: tail
  | [_] => none

end TypedImport.Hex
