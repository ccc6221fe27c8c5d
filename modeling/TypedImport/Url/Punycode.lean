import TypedImport.Text.Hex

/-!
# Punycode

A label of a domain name as ASCII: its ASCII characters, a hyphen, and digits that tell where the
other characters go. Numbers are written in base 36 with thresholds that adapt to the gaps.

**Bounds.** Every digit of a variable-length number is at least the threshold short of its base, so a
number of `n` digits is written in at most `n + 1` steps; the encoder is given the bits of its number.
-/

namespace TypedImport.Punycode

/-- The digit of a number below 36. -/
def digit (n : Nat) : Char :=
  if n < 26 then Char.ofNat (97 + n) else Char.ofNat (22 + n)

/-- The value of a digit, in either case. -/
def value? (c : Char) : Option Nat :=
  if 'a' ≤ c && c ≤ 'z' then some (c.toNat - 97)
  else if 'A' ≤ c && c ≤ 'Z' then some (c.toNat - 65)
  else if '0' ≤ c && c ≤ '9' then some (c.toNat - 22)
  else none

/-- Divides a gap down to the range of one threshold, counting the divisions. -/
def settle (delta k : Nat) : Nat → Nat
  | 0 => k
  | fuel + 1 =>
    if 455 < delta then settle (delta / 35) (k + 36) fuel else k + 36 * delta / (delta + 38)

/-- The bias after a gap was written. -/
def adapt (delta count : Nat) (first : Bool) : Nat :=
  let delta := if first then delta / 700 else delta / 2
  settle (delta + delta / count) 0 64

/-- The threshold of the digit at a place. -/
def threshold (k bias : Nat) : Nat :=
  if k ≤ bias then 1 else min 26 (k - bias)

/-- The digits of a number. -/
def number (q k bias : Nat) : Nat → List Char
  | 0 => []
  | fuel + 1 =>
    let t := threshold k bias
    if q < t then [digit q]
    else digit (t + (q - t) % (36 - t)) :: number ((q - t) / (36 - t)) (k + 36) bias fuel

/-- The state of the encoder: gap so far, bias, characters handled, and output reversed. -/
structure State where
  delta : Nat
  bias : Nat
  handled : Nat
  out : List Char

/-- Passes one character of the label while the characters equal to `n` are placed. -/
def place (n basic : Nat) (s : State) (c : Char) : State :=
  if c.toNat < n then { s with delta := s.delta + 1 }
  else if c.toNat = n then
    let digits := number s.delta 36 s.bias 64
    ⟨0, adapt s.delta (s.handled + 1) (s.handled = basic), s.handled + 1, digits.reverse ++ s.out⟩
  else s

/-- Places the characters above ASCII in the order of their code points. -/
def placeAll (label : List Char) (basic : Nat) : List Nat → Nat → State → State
  | [], _, s => s
  | n :: rest, last, s =>
    let s := { s with delta := s.delta + (n - last) * (s.handled + 1) }
    let s := label.foldl (place n basic) s
    placeAll label basic rest (n + 1) { s with delta := s.delta + 1 }

/-- The code points of a list in increasing order, each once. -/
def codePoints (s : List Char) : List Nat :=
  let insert (n : Nat) : List Nat → List Nat := fun l =>
    if l.contains n then l else l.filter (· < n) ++ n :: l.filter (n < ·)
  s.foldl (fun l c => insert c.toNat l) []

/-- **A label, encoded**; only for a label with a character above ASCII. -/
def encode (label : List Char) : List Char :=
  let basic := label.filter fun c => c.toNat < 128
  let high := codePoints (label.filter fun c => 128 ≤ c.toNat)
  let start : State := ⟨0, 72, basic.length, if basic.isEmpty then [] else '-' :: basic.reverse⟩
  (placeAll label basic.length high 128 start).out.reverse

/-- A number at the front of encoded digits. -/
def number? (s : List Char) (i w k bias : Nat) : Option (Nat × List Char) :=
  match s with
  | [] => none
  | c :: rest => do
    let d ← value? c
    let i := i + d * w
    let t := threshold k bias
    if Nat.pow 2 32 ≤ i then none
    else if d < t then return (i, rest)
    else number? rest i (w * (36 - t)) (k + 36) bias

/-- Puts the encoded characters into the output, one a step. -/
def insertAll (s : List Char) (out : List Char) (n i bias : Nat) : Nat → Option (List Char)
  | 0 => none
  | fuel + 1 =>
    match s with
    | [] => some out
    | s => do
      let (next, rest) ← number? s i 1 36 bias
      let count := out.length + 1
      let n := n + next / count
      let at_ := next % count
      if 0x10ffff < n || (0xd800 ≤ n && n ≤ 0xdfff) then none
      else
        insertAll rest (out.take at_ ++ Char.ofNat n :: out.drop at_) n (at_ + 1)
          (adapt (next - i) count (i = 0)) fuel

/-- **A label, decoded**; `none` if it is no encoding. -/
def decode? (s : List Char) : Option (List Char) :=
  let (basic, rest) := match s.reverse.dropWhile (· != '-') with
    | [] => ([], s)
    | _ :: front => (front.reverse, (s.reverse.takeWhile (· != '-')).reverse)
  insertAll rest basic 128 0 72 (s.length + 1)

end TypedImport.Punycode
