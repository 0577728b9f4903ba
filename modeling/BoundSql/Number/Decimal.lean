import BoundSql.Number.Numeral
import BoundSql.Number.Shortest

/-!
# Decimal numbers

A decimal keeps its coefficient and its exponent, so `1.50` and `1.5` are different data with the
same value. Its text is positional unless the exponent is positive or more than six zeros would
follow the point.
-/

namespace BoundSql

/-- A decimal number, an infinity or no number. -/
inductive Decimal where
  /-- Not a number; `signaling` for the kind that must not be computed with. -/
  | nan (negative signaling : Bool)
  /-- An infinity. -/
  | infinite (negative : Bool)
  /-- `coefficient * 10 ^ exponent`, with its sign. -/
  | finite (negative : Bool) (coefficient : Nat) (exponent : Int)
  deriving DecidableEq

namespace Decimal

/-- Reads a decimal, an infinity or no number. -/
def read? (s : String) : Option Decimal :=
  match s with
  | "NaN" => some (.nan false false)
  | "-NaN" => some (.nan true false)
  | "sNaN" => some (.nan false true)
  | "-sNaN" => some (.nan true true)
  | "Infinity" => some (.infinite false)
  | "-Infinity" => some (.infinite true)
  | _ => (decimal? s.toList).map fun d => .finite d.negative d.digits d.exponent

/-- The text of a coefficient and an exponent. -/
def finiteText (coefficient : Nat) (exponent : Int) : List Char :=
  let digits := decimalDigits coefficient
  let left : Int := exponent + digits.length
  let point : Int := if exponent ≤ 0 && left > -6 then left else 1
  let body :=
    if point ≤ 0 then ['0', '.'] ++ List.replicate (-point).toNat '0' ++ digits
    else if digits.length ≤ point.toNat then
      digits ++ List.replicate (point.toNat - digits.length) '0'
    else digits.take point.toNat ++ '.' :: digits.drop point.toNat
  let shift := left - point
  if shift = 0 then body
  else body ++ ['E', if shift < 0 then '-' else '+'] ++ decimalDigits shift.natAbs

/-- The text of a decimal. -/
def text : Decimal → String
  | .nan negative signaling =>
    (if negative then "-" else "") ++ (if signaling then "sNaN" else "NaN")
  | .infinite negative => if negative then "-Infinity" else "Infinity"
  | .finite negative c e => String.ofList ((if negative then ['-'] else []) ++ finiteText c e)

/-- The exact value of a finite decimal as a sign, a numerator and a positive denominator. -/
def ratio? : Decimal → Option (Bool × Nat × Nat)
  | .finite negative c e =>
    if e < 0 then some (negative, c, Nat.pow 10 (-e).toNat)
    else some (negative, c * Nat.pow 10 e.toNat, 1)
  | _ => none

/-- The nearest double. -/
def toDouble : Decimal → Double
  | .nan _ _ => .nan
  | .infinite negative => .infinite negative
  | .finite negative c e => Double.ofDecimal negative c e

/-- The decimal is not zero; what is no number counts as not zero. -/
def isNonzero : Decimal → Bool
  | .finite _ c _ => c ≠ 0
  | _ => true

end Decimal

end BoundSql
