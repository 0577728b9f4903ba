import BoundSql.Text.Printable

/-!
# Quoted text

A text between quote marks, as diagnostics show it: single quotes unless the text holds a single
and no double one, printable characters as themselves, the others as escapes. Byte strings are
written the same way behind a `b`.
-/

namespace BoundSql.Text

/-- A hexadecimal digit with small letters. -/
def hexDigitLower (n : Nat) : Char :=
  if n < 10 then Char.ofNat (48 + n) else Char.ofNat (87 + n)

/-- A number in a fixed count of hexadecimal digits. -/
def hexFixed : Nat → Nat → List Char
  | 0, _ => []
  | places + 1, n => hexFixed places (n / 16) ++ [hexDigitLower (n % 16)]

/-- Escapes that both kinds of quoted text share. -/
def escapeCommon? (mark c : Char) : Option (List Char) :=
  if c = mark || c = '\\' then some ['\\', c]
  else if c = '\t' then some ['\\', 't']
  else if c = '\n' then some ['\\', 'n']
  else if c = '\r' then some ['\\', 'r']
  else none

/-- One character between quote marks. -/
def quoteChar (mark c : Char) : List Char :=
  match escapeCommon? mark c with
  | some escaped => escaped
  | none =>
    if isPrintable c then [c]
    else if c.toNat < 0x100 then '\\' :: 'x' :: hexFixed 2 c.toNat
    else if c.toNat < 0x10000 then '\\' :: 'u' :: hexFixed 4 c.toNat
    else '\\' :: 'U' :: hexFixed 8 c.toNat

/-- The quote mark that needs fewer escapes; the single one if both are needed. -/
def quoteMark (hasSingle hasDouble : Bool) : Char :=
  if hasSingle && !hasDouble then '\x22' else '\x27'

/-- A text between quote marks. -/
def quoted (s : String) : String :=
  let cs := s.toList
  let mark := quoteMark (cs.contains '\x27') (cs.contains '\x22')
  String.ofList (mark :: cs.flatMap (quoteChar mark) ++ [mark])

/-- One byte between quote marks. -/
def quoteByte (mark : Char) (b : Nat) : List Char :=
  let c := Char.ofNat b
  match escapeCommon? mark c with
  | some escaped => escaped
  | none => if 32 ≤ b && b < 127 then [c] else '\\' :: 'x' :: hexFixed 2 b

/-- A byte string between quote marks. -/
def quotedBytes (bytes : List UInt8) : String :=
  let codes := bytes.map UInt8.toNat
  let mark := quoteMark (codes.contains 39) (codes.contains 34)
  String.ofList ('b' :: mark :: codes.flatMap (quoteByte mark) ++ [mark])

/-- A list of texts in brackets, each between quote marks. -/
def quotedList (items : List String) : String :=
  "[" ++ String.intercalate ", " (items.map quoted) ++ "]"

end BoundSql.Text
