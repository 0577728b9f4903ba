import BoundSql.Text.Alnum
import BoundSql.Text.Blank
import BoundSql.Text.Utf8

/-!
# Percent-encoding

The escapes of addresses and of form data. Unreserved characters (ASCII letters and digits and
`_.-~`) and a chosen set of others stand for themselves, every other character is written as the
escapes of its UTF-8 bytes. Reading leaves alone what is no escape.
-/

namespace BoundSql.Text

/-- Characters that are never escaped. -/
def isUnreserved (c : Char) : Bool :=
  isAsciiAlnum c || c == '_' || c == '.' || c == '-' || c == '~'

/-- A hexadecimal digit with capital letters. -/
def hexDigitUpper (n : Nat) : Char :=
  if n < 10 then Char.ofNat (48 + n) else Char.ofNat (55 + n)

/-- The value of a hexadecimal digit. -/
def hexValue? (c : Char) : Option Nat :=
  if '0' ≤ c && c ≤ '9' then some (c.toNat - 48)
  else if 'a' ≤ c && c ≤ 'f' then some (c.toNat - 87)
  else if 'A' ≤ c && c ≤ 'F' then some (c.toNat - 55)
  else none

/-- One byte as an escape. -/
def escapeByte (b : Nat) : List Char := ['%', hexDigitUpper (b / 16), hexDigitUpper (b % 16)]

/-- Escapes every character that is neither unreserved nor among the safe ones. -/
def percentEncode (safe : List Char) (s : List Char) : List Char :=
  s.flatMap fun c =>
    if isUnreserved c || safe.contains c then [c] else (encodeChar c).flatMap escapeByte

/-- The bytes of a run of ASCII characters, escapes resolved. -/
def asciiRunBytes : List Char → List Nat
  | [] => []
  | [c] => [c.toNat]
  | [c, d] => [c.toNat, d.toNat]
  | c :: d :: e :: rest =>
    if c = '%' then
      match hexValue? d, hexValue? e with
      | some high, some low => (high * 16 + low) :: asciiRunBytes rest
      | _, _ => c.toNat :: asciiRunBytes (d :: e :: rest)
    else c.toNat :: asciiRunBytes (d :: e :: rest)

/-- Reads escapes; `run` holds the ASCII characters read since the last other one, in reverse. -/
def percentDecodeFrom (run : List Char) : List Char → List Char
  | [] => decodeBytes (asciiRunBytes run.reverse)
  | c :: rest =>
    if c.toNat < 128 then percentDecodeFrom (c :: run) rest
    else decodeBytes (asciiRunBytes run.reverse) ++ c :: percentDecodeFrom [] rest

/-- Resolves the escapes of a text. -/
def percentDecode (s : List Char) : List Char := percentDecodeFrom [] s

/-- Writes form data: a space becomes a plus sign. -/
def formEncode (s : List Char) : List Char :=
  (percentEncode [' '] s).map fun c => if c = ' ' then '+' else c

/-- Reads form data: a plus sign is a space. -/
def formDecode (s : List Char) : List Char :=
  percentDecode (s.map fun c => if c = '+' then ' ' else c)

/-- Splits a text at the first occurrence of a character, if there is one. -/
def cutAt? (separator : Char) : List Char → Option (List Char × List Char)
  | [] => none
  | c :: rest =>
    if c = separator then some ([], rest)
    else (cutAt? separator rest).map fun parts => (c :: parts.1, parts.2)

/-- The fields of form data, in order. A part without an equals sign or without a value is
dropped. -/
def formFields (s : List Char) : List (List Char × List Char) :=
  (splitAt '&' s).filterMap fun part =>
    match cutAt? '=' part with
    | some (name, value) => if value.isEmpty then none else some (formDecode name, formDecode value)
    | none => none

end BoundSql.Text
