/-!
# UTF-8

Bytes to characters and back. The decoder reads one character at a time and stops at the first place
where no character can be read; it then tells where that is and whether the bytes are wrong there or
only end too early.

**The length of a fault** is that of the longest start that some character has: one byte if the first
two cannot go together, two or three if a later byte breaks the sequence off.
-/

namespace TypedImport

/-- The content of an asset. -/
abbrev Bytes := List UInt8

namespace Utf8

/-- **Why bytes are no UTF-8 text.** -/
inductive Fault where
  /-- The `length` bytes from `index` on begin no character. -/
  | invalid (length index : Nat)
  /-- The input ends inside the character that begins at `index`. -/
  | incomplete (index : Nat)
  deriving DecidableEq, Repr

/-- The sentence that tells a fault. -/
def Fault.message : Fault → String
  | .invalid length index =>
    "invalid utf-8 sequence of " ++ toString length ++ " bytes from index " ++ toString index
  | .incomplete index => "incomplete utf-8 byte sequence from index " ++ toString index

/-- A byte that continues a character. -/
def isTail (b : UInt8) : Bool :=
  0x80 ≤ b && b ≤ 0xbf

/-- The second bytes that may follow a first byte of a three-byte character: those that give neither
an overlong form nor a surrogate. -/
def secondOfThree (a b : UInt8) : Bool :=
  if a = 0xe0 then 0xa0 ≤ b && b ≤ 0xbf
  else if a = 0xed then 0x80 ≤ b && b ≤ 0x9f
  else isTail b

/-- The second bytes that may follow a first byte of a four-byte character: those that give neither an
overlong form nor a code point above the last plane. -/
def secondOfFour (a b : UInt8) : Bool :=
  if a = 0xf0 then 0x90 ≤ b && b ≤ 0xbf
  else if a = 0xf4 then 0x80 ≤ b && b ≤ 0x8f
  else isTail b

/-- The six payload bits of a continuing byte. -/
def payload (b : UInt8) : Nat :=
  b.toNat % 64

/-- The character of a two-byte sequence. -/
def ofTwo (a b : UInt8) : Char :=
  Char.ofNat (a.toNat % 32 * 64 + payload b)

/-- The character of a three-byte sequence. -/
def ofThree (a b c : UInt8) : Char :=
  Char.ofNat ((a.toNat % 16 * 64 + payload b) * 64 + payload c)

/-- The character of a four-byte sequence. -/
def ofFour (a b c d : UInt8) : Char :=
  Char.ofNat (((a.toNat % 8 * 64 + payload b) * 64 + payload c) * 64 + payload d)

/-- **Decoding from a position on**: `index` bytes have been read, and `done` holds their characters,
last first. -/
def decodeFrom (index : Nat) (done : List Char) : Bytes → Except Fault (List Char)
  | [] => .ok done.reverse
  | a :: rest =>
    if a < 0x80 then decodeFrom (index + 1) (Char.ofNat a.toNat :: done) rest
    else if 0xc2 ≤ a && a ≤ 0xdf then
      match rest with
      | [] => .error (.incomplete index)
      | b :: rest =>
        if isTail b then decodeFrom (index + 2) (ofTwo a b :: done) rest
        else .error (.invalid 1 index)
    else if 0xe0 ≤ a && a ≤ 0xef then
      match rest with
      | [] => .error (.incomplete index)
      | [b] => if secondOfThree a b then .error (.incomplete index) else .error (.invalid 1 index)
      | b :: c :: rest =>
        if secondOfThree a b then
          if isTail c then decodeFrom (index + 3) (ofThree a b c :: done) rest
          else .error (.invalid 2 index)
        else .error (.invalid 1 index)
    else if 0xf0 ≤ a && a ≤ 0xf4 then
      match rest with
      | [] => .error (.incomplete index)
      | [b] => if secondOfFour a b then .error (.incomplete index) else .error (.invalid 1 index)
      | [b, c] =>
        if secondOfFour a b then
          if isTail c then .error (.incomplete index) else .error (.invalid 2 index)
        else .error (.invalid 1 index)
      | b :: c :: d :: rest =>
        if secondOfFour a b then
          if isTail c then
            if isTail d then decodeFrom (index + 4) (ofFour a b c d :: done) rest
            else .error (.invalid 3 index)
          else .error (.invalid 2 index)
        else .error (.invalid 1 index)
    else .error (.invalid 1 index)

def decodeChars (bytes : Bytes) : Except Fault (List Char) :=
  decodeFrom 0 [] bytes

/-- The text that bytes spell. -/
def decode (bytes : Bytes) : Except Fault String :=
  (decodeChars bytes).map String.ofList

def encodeChars (s : List Char) : Bytes :=
  s.flatMap String.utf8EncodeChar

def encode (s : String) : Bytes :=
  encodeChars s.toList

end Utf8

end TypedImport
