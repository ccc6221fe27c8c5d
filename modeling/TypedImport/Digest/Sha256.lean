import TypedImport.Text.Hex

/-!
# SHA-256

The digest that content fingerprints and derived identities are made of: a message is padded to
blocks of 64 bytes, and each block is folded into a state of eight words by 64 rounds.
-/

namespace TypedImport.Sha256

/-- The round constants: the first 32 bits of the fractional parts of the cube roots of the first 64
primes. -/
def constants : List UInt32 :=
  [0x428a2f98, 0x71374491, 0xb5c0fbcf, 0xe9b5dba5, 0x3956c25b, 0x59f111f1, 0x923f82a4, 0xab1c5ed5,
   0xd807aa98, 0x12835b01, 0x243185be, 0x550c7dc3, 0x72be5d74, 0x80deb1fe, 0x9bdc06a7, 0xc19bf174,
   0xe49b69c1, 0xefbe4786, 0x0fc19dc6, 0x240ca1cc, 0x2de92c6f, 0x4a7484aa, 0x5cb0a9dc, 0x76f988da,
   0x983e5152, 0xa831c66d, 0xb00327c8, 0xbf597fc7, 0xc6e00bf3, 0xd5a79147, 0x06ca6351, 0x14292967,
   0x27b70a85, 0x2e1b2138, 0x4d2c6dfc, 0x53380d13, 0x650a7354, 0x766a0abb, 0x81c2c92e, 0x92722c85,
   0xa2bfe8a1, 0xa81a664b, 0xc24b8b70, 0xc76c51a3, 0xd192e819, 0xd6990624, 0xf40e3585, 0x106aa070,
   0x19a4c116, 0x1e376c08, 0x2748774c, 0x34b0bcb5, 0x391c0cb3, 0x4ed8aa4a, 0x5b9cca4f, 0x682e6ff3,
   0x748f82ee, 0x78a5636f, 0x84c87814, 0x8cc70208, 0x90befffa, 0xa4506ceb, 0xbef9a3f7, 0xc67178f2]

/-- **The eight words of the state.** -/
structure State where
  a : UInt32
  b : UInt32
  c : UInt32
  d : UInt32
  e : UInt32
  f : UInt32
  g : UInt32
  h : UInt32
  deriving DecidableEq, Repr

/-- The state before the first block: the first 32 bits of the fractional parts of the square roots of
the first eight primes. -/
def State.start : State :=
  ⟨0x6a09e667, 0xbb67ae85, 0x3c6ef372, 0xa54ff53a, 0x510e527f, 0x9b05688c, 0x1f83d9ab, 0x5be0cd19⟩

/-- A word turned to the right. -/
def rotate (x : UInt32) (n : UInt32) : UInt32 :=
  (x >>> n) ||| (x <<< (32 - n))

/-- One round, with the sum of the round's constant and its message word. -/
def State.round (s : State) (kw : UInt32) : State :=
  let sum1 := rotate s.e 6 ^^^ rotate s.e 11 ^^^ rotate s.e 25
  let choice := (s.e &&& s.f) ^^^ ((~~~ s.e) &&& s.g)
  let t1 := s.h + sum1 + choice + kw
  let sum0 := rotate s.a 2 ^^^ rotate s.a 13 ^^^ rotate s.a 22
  let majority := (s.a &&& s.b) ^^^ (s.a &&& s.c) ^^^ (s.b &&& s.c)
  ⟨t1 + (sum0 + majority), s.a, s.b, s.c, s.d + t1, s.e, s.f, s.g⟩

/-- The words of two states added. -/
def State.add (s t : State) : State :=
  ⟨s.a + t.a, s.b + t.b, s.c + t.c, s.d + t.d, s.e + t.e, s.f + t.f, s.g + t.g, s.h + t.h⟩

/-- The words of a list of bytes, four bytes a word, first byte highest. -/
def words : Bytes → List UInt32
  | a :: b :: c :: d :: rest =>
    ((a.toUInt32 <<< 24) ||| (b.toUInt32 <<< 16) ||| (c.toUInt32 <<< 8) ||| d.toUInt32) :: words rest
  | _ => []

/-- The next word of the message schedule. -/
def nextWord (w : Array UInt32) : UInt32 :=
  let i := w.size
  let x := w[i - 15]?.getD 0
  let y := w[i - 2]?.getD 0
  let s0 := rotate x 7 ^^^ rotate x 18 ^^^ (x >>> 3)
  let s1 := rotate y 17 ^^^ rotate y 19 ^^^ (y >>> 10)
  w[i - 16]?.getD 0 + s0 + w[i - 7]?.getD 0 + s1

/-- Adds words to a schedule. -/
def extend (w : Array UInt32) : Nat → Array UInt32
  | 0 => w
  | n + 1 => extend (w.push (nextWord w)) n

/-- The 64 words of the schedule of a block. -/
def schedule (block : Bytes) : List UInt32 :=
  (extend (words block).toArray 48).toList

/-- Folds a block into the state. -/
def State.block (s : State) (block : Bytes) : State :=
  s.add ((constants.zip (schedule block)).foldl (fun s kw => s.round (kw.1 + kw.2)) s)

/-- The bytes of a number, first byte highest. -/
def bigEndian : Nat → Nat → Bytes
  | 0, _ => []
  | count + 1, n => bigEndian count (n / 256) ++ [UInt8.ofNat (n % 256)]

/-- **The padding of a message** of a given length: one set bit, zeros up to eight bytes before a block
ends, and the length in bits. -/
def padding (length : Nat) : Bytes :=
  0x80 :: (List.replicate ((119 - length % 64) % 64) 0 ++ bigEndian 8 (length * 8))

/-- Folds the full blocks of a list of bytes into the state. -/
def State.blocks (s : State) (bytes : Bytes) : Nat → State
  | 0 => s
  | n + 1 => State.blocks (s.block (bytes.take 64)) (bytes.drop 64) n

def State.bytes (s : State) : Bytes :=
  [s.a, s.b, s.c, s.d, s.e, s.f, s.g, s.h].flatMap fun w => bigEndian 4 w.toNat

/-- **The digest of a message.** -/
def digest (message : Bytes) : Bytes :=
  let length := message.length
  let padded := message ++ padding length
  (State.start.blocks padded ((length + 72) / 64)).bytes

end TypedImport.Sha256

namespace TypedImport

/-- **The fingerprint of a content**, by which two contents are told apart. -/
def fingerprint (bytes : Bytes) : String :=
  "sha256-" ++ Hex.ofBytes (Sha256.digest bytes)

end TypedImport
