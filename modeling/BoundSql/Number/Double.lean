/-!
# Double precision numbers

Binary floating-point numbers with a mantissa of 53 bits, as exact data: a sign, a natural
mantissa and an exponent of two. Every finite number has one representation, with the mantissa
filled up unless the exponent is the least one, so equality of data is equality of bits.

`Double.ofRatio` rounds a quotient of naturals to the nearest number, ties to the even mantissa,
and is the only place where rounding happens: reading decimals and dividing integers go through
it.
-/

namespace BoundSql

/-- A number of double precision, an infinity or no number. -/
inductive Double where
  /-- Not a number. -/
  | nan
  /-- Too large, or the limit of a quotient. -/
  | infinite (negative : Bool)
  /-- `mantissa * 2 ^ exponent`, with its sign. -/
  | finite (negative : Bool) (mantissa : Nat) (exponent : Int)
  deriving DecidableEq

namespace Double

/-- The least exponent of two. -/
def leastExponent : Int := -1074

/-- The greatest exponent of two. -/
def greatestExponent : Int := 971

/-- Zero with a sign. -/
def zero (negative : Bool) : Double := .finite negative 0 leastExponent

/-- The quotient of two naturals rounded to the nearest natural, a half to the even one. -/
def roundDiv (num den : Nat) : Nat :=
  let q := num / den
  let r := num % den
  if 2 * r < den then q
  else if 2 * r > den then q + 1
  else if q % 2 == 0 then q else q + 1

/-- `num / den` times two to the power of `-e`, as a quotient of naturals. -/
def scaled (num den : Nat) (e : Int) : Nat × Nat :=
  if e < 0 then (num * Nat.pow 2 (-e).toNat, den) else (num, den * Nat.pow 2 e.toNat)

/-- The exponent with which a positive quotient has a mantissa of 53 bits. -/
def naturalExponent (num den : Nat) : Int :=
  let guess : Int := (Nat.log2 num : Int) - (Nat.log2 den : Int) - 52
  let s := scaled num den guess
  let q := s.1 / s.2
  if q < Nat.pow 2 52 then guess - 1 else if Nat.pow 2 53 ≤ q then guess + 1 else guess

/-- A sign and a quotient of naturals, rounded to the nearest number. The divisor is positive. -/
def ofRatio (negative : Bool) (num den : Nat) : Double :=
  if num = 0 then zero negative
  else
    let e := max (naturalExponent num den) leastExponent
    let s := scaled num den e
    let m := roundDiv s.1 s.2
    let (m, e) := if m = Nat.pow 2 53 then (Nat.pow 2 52, e + 1) else (m, e)
    if greatestExponent < e then .infinite negative else .finite negative m e

/-- An integer, rounded. -/
def ofInt (n : Int) : Double := ofRatio (n < 0) n.natAbs 1

/-- `digits * 10 ^ exponent`, rounded. Exponents far outside the range are cut off first, so no
huge power is ever computed. -/
def ofDecimal (negative : Bool) (digits : Nat) (exponent : Int) : Double :=
  if digits = 0 then zero negative
  else if 400 < exponent then .infinite negative
  else if exponent + Nat.log2 digits + 1 < -400 then zero negative
  else if exponent < 0 then ofRatio negative digits (Nat.pow 10 (-exponent).toNat)
  else ofRatio negative (digits * Nat.pow 10 exponent.toNat) 1

/-- The exact value of a finite number as a sign, a numerator and a positive denominator. -/
def ratio? : Double → Option (Bool × Nat × Nat)
  | .finite negative m e =>
    if e < 0 then some (negative, m, Nat.pow 2 (-e).toNat)
    else some (negative, m * Nat.pow 2 e.toNat, 1)
  | _ => none

/-- The number with the other sign. -/
def neg : Double → Double
  | .nan => .nan
  | .infinite negative => .infinite !negative
  | .finite negative m e => .finite (!negative) m e

/-- The sum, rounded once. -/
def add (a b : Double) : Double :=
  match a, b with
  | .nan, _ | _, .nan => .nan
  | .infinite s, .infinite t => if s = t then .infinite s else .nan
  | .infinite s, _ | _, .infinite s => .infinite s
  | .finite s m e, .finite t n f =>
    let low := min e f
    let x : Int := (m * Nat.pow 2 (e - low).toNat : Nat)
    let y : Int := (n * Nat.pow 2 (f - low).toNat : Nat)
    let sum := (if s then -x else x) + (if t then -y else y)
    let q := scaled sum.natAbs 1 (-low)
    if sum = 0 then zero (s && t) else ofRatio (sum < 0) q.1 q.2

/-- The product, rounded once. -/
def mul (a b : Double) : Double :=
  match a, b with
  | .nan, _ | _, .nan => .nan
  | .infinite s, .infinite t => .infinite (s != t)
  | .infinite s, .finite t m _ | .finite t m _, .infinite s =>
    if m = 0 then .nan else .infinite (s != t)
  | .finite s m e, .finite t n f =>
    let q := scaled (m * n) 1 (-(e + f))
    ofRatio (s != t) q.1 q.2

/-- The number is not zero; what is no number counts as not zero. -/
def isNonzero : Double → Bool
  | .finite _ m _ => m ≠ 0
  | _ => true

/-- The integer part, toward zero, of a finite number. -/
def truncate? (x : Double) : Option Int :=
  match x.ratio? with
  | some (negative, num, den) =>
    let q : Int := (num / den : Nat)
    some (if negative then -q else q)
  | none => none

/-- The least integer that is not below a finite number. -/
def ceiling? (x : Double) : Option Int :=
  match x.ratio? with
  | some (negative, num, den) =>
    some (if negative then -((num / den : Nat) : Int) else (((num + den - 1) / den : Nat) : Int))
  | none => none

/-- The nearest integer to a finite number, a half to the even one. -/
def nearest? (x : Double) : Option Int :=
  match x.ratio? with
  | some (negative, num, den) =>
    let q : Int := roundDiv num den
    some (if negative then -q else q)
  | none => none

/-- The number has no fractional part. -/
def isIntegral (x : Double) : Bool :=
  match x.ratio? with
  | some (_, num, den) => num % den == 0
  | none => false

/-- The quotient of two integers, the divisor not zero, rounded once. -/
def ofQuotient (a b : Int) : Double :=
  ofRatio ((a < 0) != (b < 0)) a.natAbs b.natAbs

end Double

end BoundSql
