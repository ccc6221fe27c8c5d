import TypedImport.Number.Numeral

/-!
# Double precision numbers

A number of 64 bits: a sign, eleven bits of exponent and 52 bits of fraction. The library keeps such a
number as its bits and does all arithmetic on whole numbers, so that what is computed is what is
proved about.

**Rounding.** A positive rational goes to the nearest representable number, a tie to the one with an
even last bit, and what lies half a step above the largest number or higher goes to infinity.
-/

namespace TypedImport

/-- **A double precision number**, as its bits. -/
structure Binary64 where
  bits : UInt64
  deriving DecidableEq, Repr

namespace Binary64

/-- The bits of infinity; larger ones, sign apart, are no numbers. -/
def infinityBits : Nat := 0x7ff0000000000000

/-- A number from its sign and the rest of its bits. -/
def ofMagnitude (negative : Bool) (magnitude : Nat) : Binary64 :=
  ⟨UInt64.ofNat ((if negative then Nat.pow 2 63 else 0) + magnitude)⟩

/-- Zero of either sign. -/
def zero (negative : Bool) : Binary64 :=
  ofMagnitude negative 0

/-- Infinity of either sign. -/
def infinity (negative : Bool) : Binary64 :=
  ofMagnitude negative infinityBits

/-- The sign bit. -/
def isNegative (x : Binary64) : Bool :=
  Nat.pow 2 63 ≤ x.bits.toNat

/-- All bits but the sign. -/
def magnitude (x : Binary64) : Nat :=
  x.bits.toNat % Nat.pow 2 63

/-- Neither infinite nor undefined. -/
def isFinite (x : Binary64) : Bool :=
  x.magnitude < infinityBits

/-- The same magnitude with the other sign. -/
def negate (x : Binary64) : Binary64 :=
  ofMagnitude (!x.isNegative) x.magnitude

/-- **The nearest whole number to a quotient**, a tie going to the even one. -/
def roundDiv (num den : Nat) : Nat :=
  let q := num / den
  let r := num % den
  if 2 * r < den then q
  else if den < 2 * r then q + 1
  else if q % 2 = 0 then q else q + 1

/-- A quotient with its numerator or denominator scaled, so that its value is `num / den / 2 ^ e`. -/
def scaleDown (num den : Nat) (e : Int) : Nat × Nat :=
  if 0 ≤ e then (num, den * Nat.pow 2 e.toNat) else (num * Nat.pow 2 (-e).toNat, den)

/-- The exponent of the last bit of the number nearest to a positive quotient: the one that leaves 53
bits before the point, but never one below that of the smallest number. -/
def lastBitExponent (num den : Nat) : Int :=
  let e : Int := (num.log2 : Int) - (den.log2 : Int) - 52
  let scaled := scaleDown num den e
  if scaled.1 / scaled.2 < (Nat.pow 2 52 : Nat) then max (-1074) (e - 1) else max (-1074) e

/-- **The number nearest to a quotient.** With 53 bits before the point, the exponent field and the
fraction are laid side by side by one addition: a carry out of the fraction moves on to the exponent,
and a number with fewer bits has the lowest exponent. -/
def ofRatio (negative : Bool) (num den : Nat) : Binary64 :=
  if num = 0 then zero negative
  else
    let e := lastBitExponent num den
    let (n, d) := scaleDown num den e
    let magnitude := (e + 1074).toNat * Nat.pow 2 52 + roundDiv n d
    if magnitude < infinityBits then ofMagnitude negative magnitude else infinity negative

/-- The number nearest to a natural number. -/
def ofNat (n : Nat) : Binary64 :=
  ofRatio false n 1

/-- **The number nearest to a decimal numeral.** A numeral far outside the range is not multiplied
out. -/
def ofDecimal (d : Number.Decimal) : Binary64 :=
  if d.digits = 0 then zero d.negative
  else
    let point : Int := d.exponent + (Number.digitCount d.digits : Int)
    if 310 < point then infinity d.negative
    else if point < -330 then zero d.negative
    else if 0 ≤ d.exponent then ofRatio d.negative (d.digits * Nat.pow 10 d.exponent.toNat) 1
    else ofRatio d.negative d.digits (Nat.pow 10 (-d.exponent).toNat)

/-- A finite magnitude as `m · 2 ^ e`. -/
def parts (x : Binary64) : Nat × Int :=
  let field : Nat := x.magnitude / Nat.pow 2 52
  let fraction : Nat := x.magnitude % Nat.pow 2 52
  if field = 0 then (fraction, -1074) else (Nat.pow 2 52 + fraction, (field : Int) - 1075)

/-- The quotient of a finite magnitude. -/
def ratio (x : Binary64) : Nat × Nat :=
  let (m, e) := x.parts
  if 0 ≤ e then (m * Nat.pow 2 e.toNat, 1) else (m, Nat.pow 2 (-e).toNat)

/-- The product of two finite numbers, rounded. -/
def mul (x y : Binary64) : Binary64 :=
  let (a, b) := x.ratio
  let (c, d) := y.ratio
  ofRatio (x.isNegative != y.isNegative) (a * c) (b * d)

/-- The quotient of two finite numbers, the second not zero, rounded. -/
def div (x y : Binary64) : Binary64 :=
  let (a, b) := x.ratio
  let (c, d) := y.ratio
  ofRatio (x.isNegative != y.isNegative) (a * d) (b * c)

end Binary64

end TypedImport
