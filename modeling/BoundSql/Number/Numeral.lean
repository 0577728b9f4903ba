import BoundSql.Number.Double
import BoundSql.Text.Blank
import BoundSql.Text.Digit
import BoundSql.Text.Percent

/-!
# Reading numerals

Integers in any script's decimal digits, with a sign, single low lines between digits and blanks
around them; and decimal numbers in ASCII with an optional fraction and exponent. Decimal numerals
beyond `digitLimit` digits are not read.
-/

namespace BoundSql

open Text

/-- Digits with single low lines between them, most significant first; `afterDigit` says that a
digit has just been read. -/
def groupedDigits (afterDigit : Bool) (value : Nat) : List Char → Option Nat
  | [] => if afterDigit then some value else none
  | c :: rest =>
    if c = '_' then if afterDigit then groupedDigits false value rest else none
    else
      match digitValue? c with
      | some d => groupedDigits true (value * 10 + d) rest
      | none => none

/-- An integer without blanks around it: an optional sign and grouped digits. -/
def signedInteger? : List Char → Option Int
  | '-' :: rest => (groupedDigits false 0 rest).map fun n => -(n : Int)
  | '+' :: rest => (groupedDigits false 0 rest).map fun n => (n : Int)
  | cs => (groupedDigits false 0 cs).map fun n => (n : Int)

/-- A digit of ASCII. -/
def isAsciiDigit (c : Char) : Bool := '0' ≤ c && c ≤ '9'

/-- The value of a list of ASCII digits. -/
def digitsValue (cs : List Char) : Nat :=
  cs.foldl (fun n c => n * 10 + (c.toNat - 48)) 0

/-- The greatest count of digits of a decimal numeral that is read or written. -/
def digitLimit : Nat := 4300

/-- Why a text is not read as an integer. -/
inductive NumeralFault where
  /-- It is no numeral. -/
  | malformed
  /-- It has more digits than are read. -/
  | tooLong (digits : Nat)
  deriving DecidableEq

/-- A low line that is not between two digits. -/
def hasLooseLowLine : Bool → List Char → Bool
  | afterDigit, [] => !afterDigit
  | afterDigit, c :: rest =>
    if c = '_' then !afterDigit || hasLooseLowLine false rest else hasLooseLowLine true rest

/-- Reads a natural numeral of ASCII that only blanks follow. The count of the digits is judged
before what follows them. -/
def readNaturalNumeral (cs : List Char) : Except NumeralFault Nat :=
  let numeral := cs.takeWhile fun c => isAsciiDigit c || c == '_'
  let digits := numeral.filter (· != '_')
  if hasLooseLowLine false numeral then .error .malformed
  else if digitLimit < digits.length then .error (.tooLong digits.length)
  else if (cs.drop numeral.length).all isAsciiBlank then .ok (digitsValue digits)
  else .error .malformed

/-- Reads an integer numeral of ASCII with blanks around it. -/
def readAsciiInteger (cs : List Char) : Except NumeralFault Int :=
  match cs.dropWhile isAsciiBlank with
  | '-' :: rest => (readNaturalNumeral rest).map fun n => -(n : Int)
  | '+' :: rest => (readNaturalNumeral rest).map fun n => (n : Int)
  | rest => (readNaturalNumeral rest).map fun n => (n : Int)

/-- A blank as a space and a digit of any script as that of ASCII. -/
def asciiNumeralChar (c : Char) : Char :=
  if c.toNat < 127 then c
  else if isBlank c then ' '
  else
    match digitValue? c with
    | some d => Char.ofNat (48 + d)
    | none => '?'

/-- Reads an integer numeral in the digits of any script. -/
def readIntegerNumeral (cs : List Char) : Except NumeralFault Int :=
  readAsciiInteger (if cs.all (·.toNat < 128) then cs else cs.map asciiNumeralChar)

/-- The bases of numerals other than ten. -/
inductive NumeralBase where
  /-- Binary numerals. -/
  | two
  /-- Octal numerals. -/
  | eight
  /-- Hexadecimal numerals. -/
  | sixteen

namespace NumeralBase

/-- The base as a number. -/
def value : NumeralBase → Nat
  | two => 2
  | eight => 8
  | sixteen => 16

/-- The letter that may announce the base behind a zero. -/
def mark : NumeralBase → Char
  | two => 'b'
  | eight => 'o'
  | sixteen => 'x'

/-- The value of a digit to the base. -/
def digit? (base : NumeralBase) (c : Char) : Option Nat :=
  (hexValue? c).filter (· < base.value)

end NumeralBase

/-- A numeral without the zero and the letter that announce its base. -/
def dropBaseMark (base : NumeralBase) : List Char → List Char
  | '0' :: c :: rest => if c.toLower = base.mark then rest else '0' :: c :: rest
  | cs => cs

/-- Reads digits to a base that only blanks follow. -/
def readBaseDigits (base : NumeralBase) (cs : List Char) : Option Nat :=
  let digits := cs.takeWhile fun c => (base.digit? c).isSome
  if !digits.isEmpty && (cs.drop digits.length).all isAsciiBlank then
    some (digits.foldl (fun n c => n * base.value + (base.digit? c).getD 0) 0)
  else none

/-- Reads an integer numeral to a base, in the digits of any script and without low lines. -/
def readBaseNumeral (base : NumeralBase) (cs : List Char) : Option Int :=
  let ascii := if cs.all (·.toNat < 128) then cs else cs.map asciiNumeralChar
  match ascii.dropWhile isAsciiBlank with
  | '-' :: rest => (readBaseDigits base (dropBaseMark base rest)).map fun n => -(n : Int)
  | '+' :: rest => (readBaseDigits base (dropBaseMark base rest)).map fun n => (n : Int)
  | rest => (readBaseDigits base (dropBaseMark base rest)).map fun n => (n : Int)

/-- An exponent mark with its integer, or nothing at the end of the text. -/
def exponentPart? : List Char → Option Int
  | [] => some 0
  | c :: rest =>
    if c = 'e' || c = 'E' then
      let (negative, digits) :=
        match rest with
        | '-' :: more => (true, more)
        | '+' :: more => (false, more)
        | more => (false, more)
      if digits.isEmpty || !digits.all isAsciiDigit then none
      else some (if negative then -(digitsValue digits : Int) else digitsValue digits)
    else none

/-- A decimal number as its sign, its digits as one natural, and the power of ten to scale by. -/
structure DecimalText where
  /-- A minus sign stands in front. -/
  negative : Bool
  /-- All digits, the point ignored. -/
  digits : Nat
  /-- The power of ten that restores the point. -/
  exponent : Int

/-- A decimal number without its sign. -/
def unsignedDecimal? (negative : Bool) (cs : List Char) : Option DecimalText :=
  let whole := cs.takeWhile isAsciiDigit
  let rest := cs.dropWhile isAsciiDigit
  let (fraction, rest) :=
    match rest with
    | '.' :: more => (more.takeWhile isAsciiDigit, more.dropWhile isAsciiDigit)
    | more => ([], more)
  if whole.isEmpty && fraction.isEmpty then none
  else
    (exponentPart? rest).map fun e =>
      ⟨negative, digitsValue (whole ++ fraction), e - fraction.length⟩

/-- Reads a decimal number with an optional sign. -/
def decimal? : List Char → Option DecimalText
  | '-' :: rest => unsignedDecimal? true rest
  | '+' :: rest => unsignedDecimal? false rest
  | cs => unsignedDecimal? false cs

/-- The number that a decimal text denotes, rounded. -/
def DecimalText.toDouble (d : DecimalText) : Double :=
  Double.ofDecimal d.negative d.digits d.exponent

/-- Low lines stand only between two digits; `last` is the character before. -/
def lowLinesJoinDigits (last : Char) : List Char → Bool
  | [] => true
  | c :: rest =>
    (c != '_' || (isAsciiDigit last && rest.head?.any isAsciiDigit)) && lowLinesJoinDigits c rest

/-- The number that a word without its sign names. -/
def namedDouble? (cs : List Char) : Option Double :=
  match String.ofList (cs.map Char.toLower) with
  | "inf" | "infinity" => some (.infinite false)
  | "nan" => some .nan
  | _ => none

/-- The number that a numeral of ASCII without blanks around it denotes, rounded. -/
def asciiDouble? (cs : List Char) : Option Double :=
  let (negative, unsigned) :=
    match cs with
    | '-' :: rest => (true, rest)
    | '+' :: rest => (false, rest)
    | rest => (false, rest)
  match namedDouble? unsigned with
  | some x => some (if negative then x.neg else x)
  | none =>
    if lowLinesJoinDigits ' ' unsigned then
      (unsignedDecimal? negative (unsigned.filter (· != '_'))).map DecimalText.toDouble
    else none

/-- Reads a number of double precision in the digits of any script, blanks around it ignored. -/
def doubleNumeral? (cs : List Char) : Option Double :=
  let ascii := if cs.all (·.toNat < 128) then cs else cs.map asciiNumeralChar
  asciiDouble? (((ascii.dropWhile isAsciiBlank).reverse.dropWhile isAsciiBlank).reverse)

namespace Double

/-- Reads a number, an infinity or `nan`. -/
def read? (s : String) : Option Double :=
  match s with
  | "nan" => some .nan
  | "inf" => some (.infinite false)
  | "-inf" => some (.infinite true)
  | _ => (decimal? s.toList).map DecimalText.toDouble

end Double

end BoundSql
