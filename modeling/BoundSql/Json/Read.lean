import BoundSql.Error
import BoundSql.Json.Style
import BoundSql.Number.Numeral
import BoundSql.Text.Percent
import BoundSql.Value.Equality

/-!
# Reading JSON documents

A reader for JSON with the three extra numbers. A key that occurs twice keeps its first place and
its last value. Errors name the place where reading stopped by line, column and character. Lists
and objects nested deeper than `depthLimit` are not read.
-/

namespace BoundSql

open Text

namespace Json

/-- Why reading stopped. -/
inductive Stop where
  /-- The text is no document: what went wrong, and how many characters were left there. -/
  | misread (reason : String) (left : Nat)
  /-- An integer has more digits than are read. -/
  | tooLong (digits : Nat)
  /-- A list, or else an object, is nested too deep. -/
  | tooDeep (isList : Bool)

/-- Stops at the given characters. -/
def stop {α : Type} (reason : String) (rest : List Char) : Except Stop (α × List Char) :=
  .error (.misread reason rest.length)

/-- A blank of JSON. -/
def isJsonBlank (c : Char) : Bool := c == ' ' || c == '\t' || c == '\n' || c == '\r'

/-- Passes over blanks. -/
def skipBlanks (cs : List Char) : List Char := cs.dropWhile isJsonBlank

/-- The value of four hexadecimal digits. -/
def fourHex? : List Char → Option (Nat × List Char)
  | a :: b :: c :: d :: rest => do
    let digits ← [a, b, c, d].mapM hexValue?
    some (digits.foldl (fun n digit => n * 16 + digit) 0, rest)
  | _ => none

/-- The character of a short escape. -/
def shortEscape? : Char → Option Char
  | '\x22' => some '\x22'
  | '\\' => some '\\'
  | '/' => some '/'
  | 'b' => some '\x08'
  | 'f' => some '\x0c'
  | 'n' => some '\n'
  | 'r' => some '\r'
  | 't' => some '\t'
  | _ => none

/-- A second unit that completes a pair. -/
def lowUnit? : List Char → Option (Nat × List Char)
  | '\\' :: 'u' :: rest =>
    match fourHex? rest with
    | some (n, more) => if 0xdc00 ≤ n && n ≤ 0xdfff && !more.isEmpty then some (n, more) else none
    | none => none
  | _ => none

/-- A text after its opening quote mark, which stood where `start` characters were left. -/
def readText : Nat → Nat → List Char → List Char → Except Stop (String × List Char)
  | 0, start, _, _ => .error (.misread "Unterminated string starting at" start)
  | fuel + 1, start, done, cs =>
    match cs with
    | [] => .error (.misread "Unterminated string starting at" start)
    | c :: rest =>
      if c = '\x22' then .ok (String.ofList done.reverse, rest)
      else if c.toNat < 32 then stop "Invalid control character at" cs
      else if c ≠ '\\' then readText fuel start (c :: done) rest
      else
        match rest with
        | [] => .error (.misread "Unterminated string starting at" start)
        | 'u' :: more =>
          match fourHex? more with
          | some (n, after) =>
            if after.isEmpty then stop "Invalid \\uXXXX escape" rest
            else if 0xd800 ≤ n && n ≤ 0xdbff then
              match lowUnit? after with
              | some (low, beyond) =>
                let code := 0x10000 + (n - 0xd800) * 1024 + (low - 0xdc00)
                readText fuel start (Char.ofNat code :: done) beyond
              | none => readText fuel start (replacement :: done) after
            else readText fuel start (Char.ofNat n :: done) after
          | none => stop "Invalid \\uXXXX escape" rest
        | e :: more =>
          match shortEscape? e with
          | some plain => readText fuel start (plain :: done) more
          | none => stop "Invalid \\escape" cs

/-- The whole part of a number: a zero, or digits that do not begin with one. -/
def wholePart? (cs : List Char) : Option (List Char × List Char) :=
  match cs with
  | '0' :: rest => some (['0'], rest)
  | c :: _ => if isAsciiDigit c then some (cs.takeWhile isAsciiDigit, cs.dropWhile isAsciiDigit)
    else none
  | [] => none

/-- A fraction with at least one digit, if one begins here. -/
def fractionPart (cs : List Char) : List Char × List Char :=
  match cs with
  | '.' :: rest =>
    let digits := rest.takeWhile isAsciiDigit
    if digits.isEmpty then ([], cs) else (digits, rest.dropWhile isAsciiDigit)
  | _ => ([], cs)

/-- An exponent with at least one digit, if one begins here. -/
def exponentOf (cs : List Char) : Option Int × List Char :=
  match cs with
  | c :: rest =>
    if c = 'e' || c = 'E' then
      let (negative, digits) :=
        match rest with
        | '-' :: more => (true, more)
        | '+' :: more => (false, more)
        | more => (false, more)
      let ds := digits.takeWhile isAsciiDigit
      if ds.isEmpty then (none, cs)
      else
        let n : Int := digitsValue ds
        (some (if negative then -n else n), digits.dropWhile isAsciiDigit)
    else (none, cs)
  | [] => (none, cs)

/-- A number without its sign; `start` is where its sign stands. -/
def readNumber (negative : Bool) (start cs : List Char) : Except Stop (Value × List Char) :=
  match wholePart? cs with
  | none => stop "Expecting value" start
  | some (whole, rest) =>
    let (fraction, rest) := fractionPart rest
    let (exponent, rest) := exponentOf rest
    if !fraction.isEmpty || exponent.isSome then
      let d : DecimalText :=
        ⟨negative, digitsValue (whole ++ fraction), exponent.getD 0 - fraction.length⟩
      .ok (.float d.toDouble, rest)
    else if digitLimit < whole.length then .error (.tooLong whole.length)
    else
      let n : Int := digitsValue whole
      .ok (.int (if negative then -n else n), rest)

/-- A number or a word. -/
def readScalar (cs : List Char) : Except Stop (Value × List Char) :=
  match cs with
  | 'n' :: 'u' :: 'l' :: 'l' :: rest => .ok (.null, rest)
  | 't' :: 'r' :: 'u' :: 'e' :: rest => .ok (.bool true, rest)
  | 'f' :: 'a' :: 'l' :: 's' :: 'e' :: rest => .ok (.bool false, rest)
  | 'N' :: 'a' :: 'N' :: rest => .ok (.float .nan, rest)
  | 'I' :: 'n' :: 'f' :: 'i' :: 'n' :: 'i' :: 't' :: 'y' :: rest =>
    .ok (.float (.infinite false), rest)
  | '-' :: 'I' :: 'n' :: 'f' :: 'i' :: 'n' :: 'i' :: 't' :: 'y' :: rest =>
    .ok (.float (.infinite true), rest)
  | '-' :: rest => readNumber true cs rest
  | _ => readNumber false cs cs

mutual
/-- A value. `fuel` bounds the count of steps and is never used up by the length of the text;
`depth` is how deep lists and objects may still be nested. -/
def readValue : Nat → Nat → List Char → Except Stop (Value × List Char)
  | 0, _, cs => stop "Expecting value" cs
  | fuel + 1, depth, cs =>
    match cs with
    | '\x22' :: rest => do
      let (s, rest) ← readText (rest.length + 1) cs.length [] rest
      return (.text s, rest)
    | '[' :: rest =>
      if depth = 0 then .error (.tooDeep true)
      else
        match skipBlanks rest with
        | ']' :: more => .ok (.list [], more)
        | more => readItems fuel (depth - 1) [] more
    | '\x7b' :: rest =>
      if depth = 0 then .error (.tooDeep false)
      else
        match skipBlanks rest with
        | '\x7d' :: more => .ok (.mapping [], more)
        | more => readFields fuel (depth - 1) [] more
    | _ => readScalar cs
/-- The items of a list from the next one on; those before it in reverse. -/
def readItems : Nat → Nat → List Value → List Char → Except Stop (Value × List Char)
  | 0, _, _, cs => stop "Expecting value" cs
  | fuel + 1, depth, done, cs => do
    let (v, rest) ← readValue fuel depth cs
    match skipBlanks rest with
    | ']' :: more => return (.list (v :: done).reverse, more)
    | ',' :: more => readItems fuel depth (v :: done) (skipBlanks more)
    | other => stop "Expecting ',' delimiter" other
/-- The fields of an object from the next one on; those before it in reverse. -/
def readFields : Nat → Nat → List (Value × Value) → List Char → Except Stop (Value × List Char)
  | 0, _, _, cs => stop "Expecting value" cs
  | fuel + 1, depth, done, cs =>
    match cs with
    | '\x22' :: rest => do
      let (key, rest) ← readText (rest.length + 1) cs.length [] rest
      match skipBlanks rest with
      | ':' :: more =>
        let (v, rest) ← readValue fuel depth (skipBlanks more)
        match skipBlanks rest with
        | '\x7d' :: more =>
          return (.mapping (Fields.ofPairs ((.text key, v) :: done).reverse), more)
        | ',' :: more => readFields fuel depth ((.text key, v) :: done) (skipBlanks more)
        | other => stop "Expecting ',' delimiter" other
      | other => stop "Expecting ':' delimiter" other
    | _ => stop "Expecting property name enclosed in double quotes" cs
end

/-- The line, the column and the number of a place before which `before` stands. -/
def place (before : List Char) : String :=
  let lines := before.filter (· = '\n')
  let column := (before.reverse.takeWhile (· ≠ '\n')).length + 1
  let n := fun k : Nat => String.ofList (decimalDigits k)
  "line " ++ n (lines.length + 1) ++ " column " ++ n column ++ " (char " ++ n before.length ++ ")"

/-- The error of a reader that stopped inside a document. -/
def Stop.error (cs : List Char) : Stop → Error
  | .misread reason left => .notJson (reason ++ ": " ++ place (cs.take (cs.length - left)))
  | .tooLong digits => .integer (.tooLong digits)
  | .tooDeep isList => .tooDeepJson isList

/-- The value of a document. -/
def read (document : String) : Except Error Value :=
  let cs := document.toList
  let result : Except Stop Value := do
    if cs.head? = some (Char.ofNat 0xfeff) then
      throw (.misread "Unexpected UTF-8 BOM (decode using utf-8-sig)" cs.length)
    let (v, rest) ← readValue (2 * cs.length + 2) depthLimit (skipBlanks cs)
    match skipBlanks rest with
    | [] => return v
    | other => throw (.misread "Extra data" other.length)
  match result with
  | .ok v => .ok v
  | .error s => .error (s.error cs)

end Json

end BoundSql
