import BoundSql.Number.Numeral
import BoundSql.Settings.Issue

/-!
# Whole numbers in settings

How a text is read where a setting wants an integer. A plain numeral is read as it stands. Any
other text is first brought into that form: blanks around it, a plus sign, leading zeros, a
fraction of zeros and single low lines between digits are taken away. What is then no plain
numeral is refused.
-/

namespace BoundSql.WholeNumber

open Text

/-- The value of a plain numeral: an optional minus sign and digits without a leading zero. The
length of the digits with their sign is judged before what follows them. -/
def readPlain (cs : List Char) : Except Fault Int :=
  let unsigned := match cs with
    | '-' :: rest => rest
    | rest => rest
  let digits := unsigned.takeWhile isAsciiDigit
  let leadingZero := digits.head? = some '0'
  if digits.isEmpty || (leadingZero && 1 < digits.length) then .error .unreadableInteger
  else if !leadingZero && digitLimit < digits.length + (cs.length - unsigned.length) then
    .error .hugeInteger
  else if digits.length ≠ unsigned.length then .error .unreadableInteger
  else
    let n : Int := digitsValue digits
    .ok (if cs.length = unsigned.length then n else -n)

/-- A text without the blanks around it. -/
def trimBlanks (cs : List Char) : List Char :=
  ((cs.dropWhile isUnicodeBlank).reverse.dropWhile isUnicodeBlank).reverse

/-- A digit that may stand first in a numeral. -/
def isLeadingDigit (c : Char) : Bool := '1' ≤ c && c ≤ '9'

/-- A character that may stand among leading zeros. -/
def isLeadingFiller (c : Char) : Bool := c == '0' || c == '_'

/-- What stands behind leading zeros, if it still is the beginning of a numeral. If there is no
further digit the last of the zeros stays. -/
def dropZeros? : List Char → Option (List Char)
  | '0' :: rest =>
    let last := (rest.takeWhile isLeadingFiller).getLast?.getD '0'
    match rest.dropWhile isLeadingFiller with
    | [] => some [last]
    | '.' :: more => some (last :: '.' :: more)
    | c :: more => if isLeadingDigit c then some (c :: more) else none
  | c :: rest => if isLeadingDigit c || c = '-' then some (c :: rest) else none
  | [] => none

/-- A text without the fraction of zeros at its end. -/
def dropFraction (cs : List Char) : List Char :=
  match cs.dropWhile (· != '.') with
  | '.' :: '0' :: zeros => if zeros.all (· == '0') then cs.takeWhile (· != '.') else cs
  | _ => cs

/-- Two low lines stand side by side. -/
def hasDoubleLowLine : List Char → Bool
  | '_' :: '_' :: _ => true
  | _ :: rest => hasDoubleLowLine rest
  | [] => false

/-- A text without the single low lines inside it. -/
def dropLowLines? (cs : List Char) : Option (List Char) :=
  if cs.head? = some '_' || cs.getLast? = some '_' || hasDoubleLowLine cs then none
  else some (cs.filter (· != '_'))

/-- A text brought into the form of a plain numeral. -/
def normalized? (cs : List Char) : Option (List Char) := do
  let unsigned ← match trimBlanks cs with
    | '+' :: '-' :: _ => none
    | '+' :: rest => some rest
    | rest => some rest
  let digits ← dropZeros? unsigned
  dropLowLines? (dropFraction digits)

/-- The integer that a text stands for. -/
def read (s : String) : Except Fault Int :=
  match readPlain s.toList with
  | .ok n => .ok n
  | .error .hugeInteger => .error .hugeInteger
  | .error _ =>
    match (normalized? s.toList).map readPlain with
    | some (.ok n) => .ok n
    | _ => .error .unreadableInteger

end BoundSql.WholeNumber
