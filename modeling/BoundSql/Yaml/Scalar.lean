import BoundSql.Text.Base64
import BoundSql.Text.Percent
import BoundSql.Value.Integer
import BoundSql.Yaml.Moment
import BoundSql.Yaml.Node

/-!
# Scalars of documents

`Scalar.kind` settles from its form what a scalar without quotes is: nothing, a truth value, a
number of double precision, an integer in one of its notations, a day or a moment, or else its own
text. `Scalar.read` gives the value of a scalar of a kind; a scalar whose kind was given by a tag
may have no such value.
-/

namespace BoundSql.Yaml.Scalar

open Text

/-- Words for nothing. -/
def nullWords : List String := ["", "~", "null", "Null", "NULL"]

/-- Words for the truth values. -/
def truthWords : List (String × Bool) :=
  [("yes", true), ("no", false), ("true", true), ("false", false), ("on", true), ("off", false)]

/-- A word in small letters. -/
def lowerCase (cs : List Char) : List Char := cs.map Char.toLower

/-- A word in small or in capital letters, or in small ones behind a capital. -/
def isEvenlyCased (cs : List Char) : Bool :=
  cs == lowerCase cs || cs == cs.map Char.toUpper ||
    (cs.take 1 == (cs.take 1).map Char.toUpper && cs.drop 1 == lowerCase (cs.drop 1))

/-- A scalar is a truth value. -/
def isTruth (cs : List Char) : Bool :=
  isEvenlyCased cs && (truthWords.lookup (String.ofList (lowerCase cs))).isSome

/-- The sign in front of a numeral, and the rest. -/
def splitSign : List Char → Bool × List Char
  | '-' :: rest => (true, rest)
  | '+' :: rest => (false, rest)
  | cs => (false, cs)

/-- A digit or a low line. -/
def isDigitOrLine (c : Char) : Bool := isAsciiDigit c || c == '_'

/-- A digit that is not zero, then digits and low lines. -/
def isCountNumeral : List Char → Bool
  | c :: rest => isAsciiDigit c && c != '0' && rest.all isDigitOrLine
  | [] => false

/-- Digits and low lines that begin with a digit. -/
def isDigitRun : List Char → Bool
  | c :: rest => isAsciiDigit c && rest.all isDigitOrLine
  | [] => false

/-- A later member of a numeral to the base sixty: one or two digits below sixty. -/
def isSixtieth : List Char → Bool
  | [d] => isAsciiDigit d
  | [t, d] => '0' ≤ t && t ≤ '5' && isAsciiDigit d
  | _ => false

/-- An integer without its sign. -/
def isNatural (cs : List Char) : Bool :=
  match cs with
  | ['0'] => true
  | '0' :: 'b' :: digits =>
    !digits.isEmpty && digits.all fun d => d == '0' || d == '1' || d == '_'
  | '0' :: 'x' :: digits => !digits.isEmpty && digits.all fun d => (hexValue? d).isSome || d == '_'
  | '0' :: digits => digits.all fun d => ('0' ≤ d && d ≤ '7') || d == '_'
  | _ =>
    match splitAt ':' cs with
    | first :: rest => isCountNumeral first && rest.all isSixtieth
    | [] => false

/-- The exponent of a number: a mark, a sign and digits, or nothing. -/
def isExponent : List Char → Bool
  | [] => true
  | mark :: sign :: digits =>
    (mark == 'e' || mark == 'E') && (sign == '-' || sign == '+') && !digits.isEmpty &&
      digits.all isAsciiDigit
  | _ => false

/-- A point with digits and low lines behind it, and an exponent. -/
def isFraction : List Char → Bool
  | '.' :: rest => isExponent (rest.dropWhile isDigitOrLine)
  | _ => false

/-- A numeral to the base sixty with a point behind its last member. -/
def isSixtiethsFraction (cs : List Char) : Bool :=
  match splitAt ':' (cs.takeWhile (· != '.')), cs.dropWhile (· != '.') with
  | first :: part :: parts, '.' :: fraction =>
    isDigitRun first && (part :: parts).all isSixtieth && fraction.all isDigitOrLine
  | _, _ => false

/-- A number with a point, without its sign. -/
def isPointNumeral (cs : List Char) : Bool :=
  let whole := cs.takeWhile isDigitOrLine
  isDigitRun whole && isFraction (cs.drop whole.length)

/-- Words for an infinite number, without the sign. -/
def infinityWords : List String := [".inf", ".Inf", ".INF"]

/-- Words for no number. -/
def nanWords : List String := [".nan", ".NaN", ".NAN"]

/-- A scalar is a number of double precision. -/
def isFloat (cs : List Char) : Bool :=
  let unsigned := (splitSign cs).2
  isPointNumeral unsigned || isSixtiethsFraction unsigned ||
    infinityWords.contains (String.ofList unsigned) || nanWords.contains (String.ofList cs) ||
    (isFraction cs && ((cs.drop 1).head?.any isAsciiDigit))

/-- What a scalar without quotes is. -/
def kind (cs : List Char) : Kind :=
  if nullWords.contains (String.ofList cs) then .null
  else if isTruth cs then .truth
  else if isFloat cs then .float
  else if isNatural (splitSign cs).2 then .integer
  else if isMoment cs then .moment
  else
    match cs with
    | ['<', '<'] => .merge
    | ['='] => .default
    | ['!'] | ['&'] | ['*'] => .foreign
    | _ => .text

/-- The integer of decimal digits. -/
def readDecimal (cs : List Char) : Except Error Int := Value.integerOfText (String.ofList cs)

/-- The value of a numeral to the base sixty, its members in order. -/
def readSixtieths : List (List Char) → Except Error Int
  | parts => do
    let digits ← parts.mapM readDecimal
    return digits.foldl (fun n d => n * 60 + d) 0

/-- The integer of a numeral without its sign and without low lines. -/
def readUnsigned (cs : List Char) : Except Error Int :=
  match cs with
  | '0' :: 'b' :: digits => Value.integerInBase .two digits
  | '0' :: 'x' :: digits => Value.integerInBase .sixteen digits
  | '0' :: digits => Value.integerInBase .eight ('0' :: digits)
  | _ => if cs.contains ':' then readSixtieths (splitAt ':' cs) else readDecimal cs

/-- A scalar without its low lines. -/
def dropLines (cs : List Char) : List Char := cs.filter (· != '_')

/-- The integer of a scalar. -/
def readInteger (cs : List Char) : Except Error Int :=
  let (negative, unsigned) := splitSign (dropLines cs)
  if unsigned.isEmpty then .error (.raised "IndexError" "string index out of range")
  else (readUnsigned unsigned).map fun n => if negative then -n else n

/-- The value of a numeral to the base sixty as a double. The members are added from the last one
on, each multiplied by its power of sixty. -/
def sumSixtieths : Nat → Double → List Double → Double
  | _, sum, [] => sum
  | base, sum, d :: rest => sumSixtieths (base * 60) (sum.add (d.mul (.ofInt base))) rest

/-- The double of a numeral without its sign and without low lines, in small letters. -/
def readUnsignedDouble (cs : List Char) : Except Error Double :=
  let word := String.ofList cs
  if word = ".inf" then .ok (.infinite false)
  else if word = ".nan" then .ok .nan
  else if cs.contains ':' then do
    let parts ← (splitAt ':' cs).mapM fun part => Value.doubleOfText (String.ofList part)
    return sumSixtieths 1 (.zero false) parts.reverse
  else Value.doubleOfText (String.ofList cs)

/-- The double of a scalar. -/
def readDouble (cs : List Char) : Except Error Double :=
  let cs := lowerCase (dropLines cs)
  let (negative, unsigned) := splitSign cs
  if cs.isEmpty then .error (.raised "IndexError" "string index out of range")
  else (readUnsignedDouble unsigned).map fun x => if negative then x.neg else x

/-- The value of a scalar of a kind. -/
def read (kind : Kind) (cs : List Char) : Except Fault Value :=
  let word := String.ofList cs
  match kind with
  | .null => .ok .null
  | .truth =>
    match truthWords.lookup (String.ofList (lowerCase cs)) with
    | some b => .ok (.bool b)
    | none => .error (.scalar (.raised "KeyError" (quoted (String.ofList (lowerCase cs)))))
  | .integer => ((readInteger cs).map Value.int).mapError .scalar
  | .float => ((readDouble cs).map Value.float).mapError .scalar
  | .moment =>
    match writtenMoment? cs with
    | some m => m.value.mapError .scalar
    | none =>
      .error (.scalar (.raised "AttributeError" "'NoneType' object has no attribute 'groupdict'"))
  | .text => .ok (.text word)
  | .bytes =>
    match decodeBase64? cs with
    | some content => .ok (.bytes content)
    | none => .error (.document .values)
  | _ => .error (.document .values)

end BoundSql.Yaml.Scalar
