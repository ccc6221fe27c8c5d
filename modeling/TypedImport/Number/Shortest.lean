import TypedImport.Number.Binary64

/-!
# The shortest numeral of a number

Of all decimal numerals that read back as a given number, the one with the fewest digits, and of
those the nearest. For one digit, two, and so on the two neighbours of the number on that decimal
grid are tried in whole-number arithmetic; seventeen digits always suffice.

**Layout.** A numeral is written positionally while its point stands within sixteen digits from the
front or five places before the first digit, and with an exponent otherwise.
-/

namespace TypedImport.Binary64

/-- The bounds of what rounds to a positive finite number, and the number itself, over a common
denominator: `low`, `value`, `high` and the denominator. -/
def bounds (x : Binary64) : Nat × Nat × Nat × Nat :=
  let (m, e) := x.parts
  let low := if m = Nat.pow 2 52 && -1074 < e then 4 * m - 1 else 4 * m - 2
  if 2 ≤ e then
    let unit := Nat.pow 2 (e - 2).toNat
    (low * unit, 4 * m * unit, (4 * m + 2) * unit, 1)
  else (low, 4 * m, 4 * m + 2, Nat.pow 2 (2 - e).toNat)

/-- A whole number times a power of ten, as a quotient. -/
def gridPoint (n : Nat) (k : Int) : Nat × Nat :=
  if 0 ≤ k then (n * Nat.pow 10 k.toNat, 1) else (n, Nat.pow 10 (-k).toNat)

/-- Whether a decimal `n · 10 ^ k` reads back as the number. -/
def readsBack (x : Binary64) (n : Nat) (k : Int) : Bool :=
  let (low, _, high, den) := x.bounds
  let (a, b) := gridPoint n k
  if x.parts.1 % 2 = 0 then low * b ≤ a * den && a * den ≤ high * b
  else low * b < a * den && a * den < high * b

/-- The exponent of the first decimal digit of a positive finite number. -/
def firstDigitExponent (x : Binary64) : Int :=
  let (a, b) := x.ratio
  (Number.digitCount (a * Nat.pow 10 400 / b) : Int) - 401

/-- The best decimal with the given number of digits, if one reads back: its digits and the exponent
of the last. -/
def shortestWith? (x : Binary64) (count : Nat) : Option (Nat × Int) :=
  let k := x.firstDigitExponent + 1 - count
  let (a, b) := x.ratio
  let (num, den) := if 0 ≤ k then (a, b * Nat.pow 10 k.toNat) else (a * Nat.pow 10 (-k).toNat, b)
  let below := num / den
  let nearer := roundDiv num den
  let other := if nearer = below then below + 1 else below
  if x.readsBack nearer k then some (nearer, k)
  else if x.readsBack other k then some (other, k)
  else none

/-- The digits of the shortest numeral and the exponent of the last digit, trying `count` digits and
then more, `fuel` times at most. -/
def shortestFrom (x : Binary64) (count : Nat) : Nat → Nat × Int
  | 0 => (0, 0)
  | fuel + 1 =>
    match x.shortestWith? count with
    | some found => found
    | none => shortestFrom x (count + 1) fuel

/-- A number without the zeros at its end, and how many they were. -/
def dropZeros (n : Nat) (k : Int) : Nat → Nat × Int
  | 0 => (n, k)
  | fuel + 1 => if n % 10 = 0 && n != 0 then dropZeros (n / 10) (k + 1) fuel else (n, k)

/-- **The shortest decimal** of a positive finite number. -/
def shortest (x : Binary64) : Nat × Int :=
  let (n, k) := x.shortestFrom 1 18
  dropZeros n k 20

/-- A positive decimal in its layout. -/
def layout (n : Nat) (k : Int) : String :=
  let digits := Nat.toDigits 10 n
  let point : Int := digits.length + k
  if 0 ≤ k && point ≤ 16 then String.ofList (digits ++ List.replicate k.toNat '0') ++ ".0"
  else if 0 < point && point ≤ 16 then
    String.ofList (digits.take point.toNat ++ '.' :: digits.drop point.toNat)
  else if -5 < point && point ≤ 0 then
    "0." ++ String.ofList (List.replicate (-point).toNat '0' ++ digits)
  else
    let mantissa := match digits with
      | [d] => String.ofList [d]
      | d :: rest => String.ofList (d :: '.' :: rest)
      | [] => ""
    mantissa ++ "e" ++ toString (point - 1)

/-- **The text of a finite number.** -/
def text (x : Binary64) : String :=
  let body := if x.magnitude = 0 then "0.0" else
    let (n, k) := x.shortest
    layout n k
  if x.isNegative then "-" ++ body else body

end TypedImport.Binary64
