import TypedImport.Text.Hex

/-!
# Percent encoding

A byte that may not stand in a part of a URL is written as `%` and two hexadecimal digits. Each part
has a set of ASCII bytes to encode; bytes above ASCII are always encoded.

Decoding undoes every well-formed `%XX` and keeps all else, so it is total.
-/

namespace TypedImport.Percent

/-- A set of ASCII bytes to encode. -/
abbrev EncodeSet := UInt8 → Bool

/-- The control characters. -/
def controls : EncodeSet := fun b => b < 0x20 || b = 0x7f

/-- Whether a byte is one of the ASCII characters of a text. -/
def oneOf (chars : String) (b : UInt8) : Bool :=
  chars.toList.any fun c => c.toNat = b.toNat

def fragment : EncodeSet := fun b => controls b || oneOf " \"<>`" b

/-- What is encoded in a path that is given as text. -/
def path : EncodeSet := fun b => fragment b || oneOf "#?\x7b\x7d" b

/-- What is encoded in a name that becomes one segment of a path: also the separators and the percent
sign itself, so that decoding gives the name back. -/
def segment : EncodeSet := fun b => path b || oneOf "/%\\" b

/-- What is encoded in user information. -/
def userinfo : EncodeSet := fun b => path b || oneOf "/:;=@[\\]^|" b

def query : EncodeSet := fun b => controls b || oneOf " \"#<>" b

/-- What is encoded in the query of a URL with a special scheme. -/
def specialQuery : EncodeSet := fun b => query b || b = 0x27

/-- The uppercase hexadecimal digit of a number below 16. -/
def upperDigit (n : Nat) : Char :=
  if n < 10 then Char.ofNat (48 + n) else Char.ofNat (55 + n)

/-- A byte, encoded if the set asks for it. -/
def encodeByte (set : EncodeSet) (b : UInt8) : List Char :=
  if 0x80 ≤ b || set b then ['%', upperDigit (b.toNat / 16), upperDigit (b.toNat % 16)]
  else [Char.ofNat b.toNat]

/-- **Bytes, encoded.** -/
def encodeBytes (set : EncodeSet) (bytes : Bytes) : String :=
  String.ofList (bytes.flatMap (encodeByte set))

/-- A text as UTF-8, encoded. -/
def encode (set : EncodeSet) (s : List Char) : String :=
  encodeBytes set (Utf8.encodeChars s)

/-- The value of a byte that is a hexadecimal digit. -/
def byteValue? (b : UInt8) : Option Nat :=
  Hex.value? (Char.ofNat b.toNat)

/-- **Bytes, decoded**: `%` and two digits give the byte they spell, all else stays. -/
def decode : Bytes → Bytes
  | [] => []
  | a :: rest =>
    match rest with
    | b :: c :: tail =>
      if a = 0x25 then
        match byteValue? b, byteValue? c with
        | some high, some low => UInt8.ofNat (high * 16 + low) :: decode tail
        | _, _ => a :: decode (b :: c :: tail)
      else a :: decode (b :: c :: tail)
    | rest => a :: decode rest

end TypedImport.Percent
