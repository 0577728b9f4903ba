import BoundSql.Number.Double

/-!
# Shortest decimal text of a double

`Double.shortest` finds the fewest digits that read back as the same number, and among those the
digits nearest to it. It looks at the two neighbours of the value on the grids of one, two, … up
to seventeen digits; the first grid with a neighbour inside the rounding interval wins.

`Double.text` lays these digits out: positional from 1e-4 up to below 1e16, always with a
fraction, otherwise with an exponent of at least two digits.
-/

namespace BoundSql

/-- Decimal digits of a natural, most significant first; `fuel` is at least their count. -/
def decimalDigitsAux : Nat → Nat → List Char → List Char
  | 0, _, acc => acc
  | fuel + 1, n, acc =>
    let acc := Char.ofNat (48 + n % 10) :: acc
    if n < 10 then acc else decimalDigitsAux fuel (n / 10) acc

/-- Decimal digits of a natural, most significant first. -/
def decimalDigits (n : Nat) : List Char := decimalDigitsAux (Nat.log2 n + 1) n []

/-- Decimal text of an integer. -/
def integerText (n : Int) : List Char :=
  if n < 0 then '-' :: decimalDigits n.natAbs else decimalDigits n.natAbs

namespace Double

/-- The interval of reals that round to `m * 2 ^ e`, as numerators over a common denominator:
lower end, value, upper end, denominator. -/
def interval (m : Nat) (e : Int) : Nat × Nat × Nat × Nat :=
  let up := Nat.pow 2 e.toNat
  let down := Nat.pow 2 (-e).toNat
  let below := if m = Nat.pow 2 52 && leastExponent < e then 4 * m - 1 else 4 * m - 2
  (below * up, 4 * m * up, (4 * m + 2) * up, 4 * down)

/-- The count `p` with `10 ^ (p - 1) ≤ num / den < 10 ^ p`, searched upward from a lower bound. -/
def magnitudeFrom : Nat → Nat → Nat → Int → Int
  | 0, _, _, p => p
  | fuel + 1, num, den, p =>
    let fits := if p < 0 then num * Nat.pow 10 (-p).toNat < den else num < den * Nat.pow 10 p.toNat
    if fits then p else magnitudeFrom fuel num den (p + 1)

/-- The count of digits before the point of a positive quotient, negative for leading zeros. -/
def magnitude (num den : Nat) : Int :=
  let bits : Int := (Nat.log2 num : Int) - (Nat.log2 den : Int)
  magnitudeFrom 8 num den ((bits - 1) * 30103 / 100000 - 1)

/-- The better neighbour of the value on the grid of step `10 ^ grid` inside the interval. -/
def onGrid? (low value high den : Nat) (closed : Bool) (grid : Int) : Option Nat :=
  let num := Nat.pow 10 grid.toNat
  let sub := Nat.pow 10 (-grid).toNat
  let inside := fun d : Nat =>
    let x := d * num * den
    if closed then low * sub ≤ x && x ≤ high * sub else low * sub < x && x < high * sub
  let d := value * sub / (num * den)
  match inside d, inside (d + 1) with
  | true, true =>
    let left := value * sub - d * num * den
    let right := (d + 1) * num * den - value * sub
    if left < right then some d
    else if right < left then some (d + 1)
    else if d % 2 == 0 then some d else some (d + 1)
  | true, false => some d
  | false, true => some (d + 1)
  | false, false => none

/-- The first grid that has a neighbour in the interval, from `digits` digits on. -/
def searchGrid : Nat → Nat → Nat × Nat × Nat × Nat → Bool → Int → Nat × Int
  | 0, _, _, _, _ => (0, 0)
  | fuel + 1, digits, span, closed, p =>
    let (low, value, high, den) := span
    match onGrid? low value high den closed (p - digits) with
    | some d => (d, p - digits)
    | none => searchGrid fuel (digits + 1) span closed p

/-- Removes trailing zeros from `digits * 10 ^ exponent`. -/
def dropZeros : Nat → Nat → Int → Nat × Int
  | 0, digits, exponent => (digits, exponent)
  | fuel + 1, digits, exponent =>
    if digits ≠ 0 && digits % 10 == 0 then dropZeros fuel (digits / 10) (exponent + 1)
    else (digits, exponent)

/-- The shortest decimal `digits * 10 ^ exponent` that reads back as `m * 2 ^ e`. -/
def shortest (m : Nat) (e : Int) : Nat × Int :=
  if m = 0 then (0, 0)
  else
    let span := interval m e
    let p := magnitude span.2.1 span.2.2.2
    let found := searchGrid 17 1 span (m % 2 == 0) p
    dropZeros 20 found.1 found.2

/-- Where positional notation ends and how an exponent is written. -/
structure Layout where
  /-- Least decimal exponent that is written positionally. -/
  leastPositional : Int
  /-- Greatest decimal exponent that is written positionally. -/
  greatestPositional : Int
  /-- Least count of digits of an exponent. -/
  exponentDigits : Nat

/-- Numbers below 1e16 that are at least 1e-4 are positional, exponents have two digits or more. -/
def layout : Layout := ⟨-4, 15, 2⟩

/-- Zeros in front of digits up to a width. -/
def padZeros (width : Nat) (digits : List Char) : List Char :=
  List.replicate (width - digits.length) '0' ++ digits

/-- Digits with the point after the first `whole` of them. -/
def positional (digits : List Char) (whole : Int) : List Char :=
  if whole ≤ 0 then ['0', '.'] ++ List.replicate (-whole).toNat '0' ++ digits
  else
    let n := whole.toNat
    if digits.length ≤ n then digits ++ List.replicate (n - digits.length) '0' ++ ['.', '0']
    else digits.take n ++ '.' :: digits.drop n

/-- Digits with the point after the first of them, and an exponent. -/
def scientific (digits : List Char) (exponent : Int) : List Char :=
  let sign := if exponent < 0 then '-' else '+'
  let fraction := if digits.length ≤ 1 then [] else '.' :: digits.drop 1
  digits.take 1 ++ fraction ++ ['e', sign] ++
    padZeros layout.exponentDigits (decimalDigits exponent.natAbs)

/-- The text of a finite number without its sign. -/
def magnitudeText (m : Nat) (e : Int) : List Char :=
  let (d, x) := shortest m e
  let digits := decimalDigits d
  let exponent : Int := x + digits.length - 1
  if layout.leastPositional ≤ exponent && exponent ≤ layout.greatestPositional then
    positional digits (exponent + 1)
  else scientific digits exponent

/-- The shortest text that reads back as the number. -/
def text : Double → String
  | .nan => "nan"
  | .infinite negative => if negative then "-inf" else "inf"
  | .finite negative m e =>
    String.ofList ((if negative then ['-'] else []) ++ magnitudeText m e)

end Double

end BoundSql
