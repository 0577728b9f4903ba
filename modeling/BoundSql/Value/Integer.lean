import BoundSql.Error
import BoundSql.Number.Numeral

/-!
# Values as integers

Which values can be taken for an integer: numbers lose their fraction, texts and byte strings must
be numerals, unique identifiers count as their bits. A text may also be taken for a number of
double precision.
-/

namespace BoundSql

open Text

namespace Value

/-- The integer of a double. -/
def integerOfDouble (x : Double) : Except Error Int :=
  match x with
  | .nan => .error (.integer .nan)
  | .infinite _ => .error (.integer .infinite)
  | x => .ok (x.truncate?.getD 0)

/-- The integer of a decimal. -/
def integerOfDecimal (d : Decimal) : Except Error Int :=
  match d with
  | .nan _ _ => .error (.integer .decimalNan)
  | .infinite _ => .error (.integer .decimalInfinite)
  | d =>
    match d.ratio? with
    | some (negative, num, den) =>
      let q : Int := (num / den : Nat)
      .ok (if negative then -q else q)
    | none => .ok 0

/-- How much of a text that is no numeral is shown. -/
def shownLength : Nat := 200

/-- A numeral as an integer, or the error that shows it. -/
def integerOfNumeral (shown : String) : Except NumeralFault Int → Except Error Int
  | .ok n => .ok n
  | .error (.tooLong digits) => .error (.integer (.tooLong digits))
  | .error .malformed =>
    .error (.integer (.literal 10 (String.ofList (shown.toList.take shownLength))))

/-- The integer of a text. -/
def integerOfText (s : String) : Except Error Int :=
  integerOfNumeral (quoted s) (readIntegerNumeral s.toList)

/-- The integer of a numeral to a base. -/
def integerInBase (base : NumeralBase) (cs : List Char) : Except Error Int :=
  match readBaseNumeral base cs with
  | some n => .ok n
  | none =>
    .error (.integer (.literal base.value
      (String.ofList ((quoted (String.ofList cs)).toList.take shownLength))))

/-- The number of double precision of a text. -/
def doubleOfText (s : String) : Except Error Double :=
  match doubleNumeral? s.toList with
  | some x => .ok x
  | none => .error (.notDouble (quoted s))

/-- The integer of a byte string. -/
def integerOfBytes (content : List UInt8) : Except Error Int :=
  integerOfNumeral (quotedBytes (content.take shownLength))
    (readAsciiInteger (content.map fun b => Char.ofNat b.toNat))

/-- The integer that a value can be taken for. -/
def toInteger : Value → Except Error Int
  | .bool b => .ok (if b then 1 else 0)
  | .int n => .ok n
  | .float x => integerOfDouble x
  | .decimal d => integerOfDecimal d
  | .uuid bits => .ok bits
  | .text s => integerOfText s
  | .bytes content => integerOfBytes content
  | v => .error (.integer (.wrongClass v.qualifiedClassName))

/-- The decimal numeral of an integer, unless it would be too long. -/
def numeralOf (n : Int) : Except Error (List Char) :=
  if n.natAbs < Nat.pow 10 digitLimit then .ok (integerText n) else .error (.integer .unwritable)

/-- Refuses an integer that has no numeral. -/
def checkNumeral : Value → Except Error Unit
  | .int n => (numeralOf n).map fun _ => ()
  | _ => .ok ()

end Value

end BoundSql
