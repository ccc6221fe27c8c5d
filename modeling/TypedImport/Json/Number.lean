import TypedImport.Json.Value

/-!
# Numbers in JSON text

A number without a point and an exponent is a whole number if 64 bits hold it; `-0` and every other
number is double precision.

**How a double is read.** The digits are gathered into a significand as long as 64 bits hold it;
further digits before the point only move the point and further digits after it are ignored. The
significand is rounded to a double, then multiplied or divided by the double nearest to the power of
ten. So a numeral with few digits and a small exponent is read exactly, and others may be one step
beside the nearest double. A result beyond the largest double is refused.
-/

namespace TypedImport.Json

/-- **The lexical parts of a number.** -/
structure Numeral where
  negative : Bool
  /-- The digits before the point. -/
  whole : List Char
  /-- The digits after the point, if there is one. -/
  fraction : Option (List Char)
  /-- The sign and the digits of the exponent, if there is one. -/
  exponent : Option (Bool × List Char)

/-- The digits at the front of a text, at least one, and the rest. -/
def digits? (s : List Char) : Option (List Char × List Char) :=
  match s.takeWhile Char.isDigit with
  | [] => none
  | d => some (d, s.dropWhile Char.isDigit)

/-- A number at the front of a text: no plus, no superfluous zero in front, digits on both sides of a
point, digits in an exponent. -/
def Numeral.read? (s : List Char) : Option (Numeral × List Char) := do
  let (negative, s) := match s with
    | '-' :: rest => (true, rest)
    | s => (false, s)
  let (whole, s) ← digits? s
  if whole.head? = some '0' && 1 < whole.length then none
  let (fraction, s) ← match s with
    | '.' :: rest => (digits? rest).map fun (d, rest) => (some d, rest)
    | s => some (none, s)
  let (exponent, s) ← match s with
    | c :: rest =>
      if c = 'e' || c = 'E' then
        match rest with
        | '-' :: rest => (digits? rest).map fun (d, rest) => (some (true, d), rest)
        | '+' :: rest => (digits? rest).map fun (d, rest) => (some (false, d), rest)
        | rest => (digits? rest).map fun (d, rest) => (some (false, d), rest)
      else some (none, s)
    | [] => some (none, s)
  return (⟨negative, whole, fraction, exponent⟩, s)

/-- Gathers digits while 64 bits hold the significand: the significand and the digits left over. -/
def gather (n : Nat) : List Char → Nat × List Char
  | [] => (n, [])
  | c :: rest =>
    let next := n * 10 + (c.toNat - 48)
    if next < Nat.pow 2 64 then gather next rest else (n, c :: rest)

/-- Scales a rounded significand by a power of ten, dividing by `10 ^ 308` first while the exponent is
lower than that; `none` is a number out of range. -/
def scale? (x : Binary64) (exponent : Int) : Nat → Option Binary64
  | 0 => some x
  | fuel + 1 =>
    if exponent.natAbs ≤ 308 then
      let power := Binary64.ofNat (Nat.pow 10 exponent.natAbs)
      if 0 ≤ exponent then
        let y := x.mul power
        if y.isFinite then some y else none
      else some (x.div power)
    else if x.magnitude = 0 then some x
    else if 0 ≤ exponent then none
    else scale? (x.div (Binary64.ofNat (Nat.pow 10 308))) (exponent + 308) fuel

/-- **The double that a numeral reads as**; `none` if it is out of range. -/
def Numeral.float? (n : Numeral) : Option Binary64 := do
  let (significand, moved) := gather 0 n.whole
  let (significand, ignored) := gather significand (n.fraction.getD [])
  let taken := (n.fraction.getD []).length - ignored.length
  let shift : Int := moved.length - taken
  let exponent ← match n.exponent with
    | none => some (some shift)
    | some (low, digits) =>
      let e : Nat := digits.foldl (fun e c => e * 10 + (c.toNat - 48)) 0
      if Nat.pow 2 31 ≤ e then
        if significand != 0 && !low then none else some none
      else if low then some (some (max (shift - e) (-(Nat.pow 2 31))))
      else some (some (min (shift + e) (Nat.pow 2 31 - 1)))
  let magnitude ← match exponent with
    | none => some (Binary64.zero false)
    | some exponent => scale? (Binary64.ofNat significand) exponent 8
  return if n.negative then magnitude.negate else magnitude

/-- **The value of a numeral.** -/
def Numeral.value? (n : Numeral) : Option Value :=
  match n.fraction, n.exponent with
  | none, none =>
    let magnitude : Nat := n.whole.foldl (fun k c => k * 10 + (c.toNat - 48)) 0
    if n.negative then
      if 0 < magnitude && magnitude ≤ Nat.pow 2 63 then some (.int (-(magnitude : Int)))
      else n.float?.map .float
    else if magnitude < Nat.pow 2 64 then some (.int magnitude)
    else n.float?.map .float
  | _, _ => n.float?.map .float

end TypedImport.Json
