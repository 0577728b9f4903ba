import BoundSql.Text.Alnum
import BoundSql.Number.Shortest

/-!
# Placeholders and named binds

`Placeholder.convert` turns the question marks of a statement into the binds `:p1`, `:p2`, … It
leaves question marks inside quotes alone; a quote opens at any of the three quote marks and
closes at the next one of the same kind. A colon that would read as a bind gets a backslash in
front, inside quotes too.

`BindText` reads such a text back: a bind is a colon that follows no colon, word character or
backslash, and a word that no colon follows.
-/

namespace BoundSql

open Text

namespace Placeholder

/-- The marks between which question marks are ordinary characters. -/
def isQuote (c : Char) : Bool := c == '\x27' || c == '\x22' || c == '\x60'

/-- A colon between these neighbours would read as a bind. -/
def needsEscape (before after : Option Char) : Bool :=
  (match after with
    | some c => isWordChar c
    | none => false) &&
  (match before with
    | some c => !(c == ':' || isWordChar c || c == '\\')
    | none => true)

/-- The name of the bind with the given number. -/
def bindName (n : Nat) : List Char := 'p' :: decimalDigits n

/-- Converts the rest of a text: the character before it, the quote that is open, and how many
placeholders came before. -/
def convertFrom (before open? : Option Char) (count : Nat) : List Char → List Char × Nat
  | [] => ([], count)
  | c :: rest =>
    if c = ':' && needsEscape before rest.head? then
      let r := convertFrom (some c) open? count rest
      ('\\' :: ':' :: r.1, r.2)
    else
      match open? with
      | some q =>
        let r := convertFrom (some c) (if c = q then none else open?) count rest
        (c :: r.1, r.2)
      | none =>
        if isQuote c then
          let r := convertFrom (some c) (some c) count rest
          (c :: r.1, r.2)
        else if c = '?' then
          let r := convertFrom (some c) none (count + 1) rest
          (':' :: bindName (count + 1) ++ r.1, r.2)
        else
          let r := convertFrom (some c) none count rest
          (c :: r.1, r.2)

/-- A statement with named binds and their count. -/
def convert (sql : String) : String × Nat :=
  let r := convertFrom none none 0 sql.toList
  (String.ofList r.1, r.2)

end Placeholder

/-- A part of a text with binds. -/
inductive BindPiece where
  /-- An ordinary character. -/
  | char (c : Char)
  /-- A bind. -/
  | bind (name : List Char)
  deriving DecidableEq

namespace BindText

/-- The name of the bind that begins with a colon, given what precedes and follows the colon. -/
def bindAt? (before : Option Char) (rest : List Char) : Option (List Char) :=
  let name := rest.takeWhile isWordChar
  let free :=
    match before with
    | some c => !(c == ':' || isWordChar c || c == '\\')
    | none => true
  let closed := (rest.dropWhile isWordChar).head? != some ':'
  if free && closed && !name.isEmpty then some name else none

/-- Reads the pieces of a text; `skip` characters belong to a bind that was already read. -/
def piecesFrom (before : Option Char) (skip : Nat) : List Char → List BindPiece
  | [] => []
  | c :: rest =>
    match skip with
    | n + 1 => piecesFrom (some c) n rest
    | 0 =>
      if c = ':' then
        match bindAt? before rest with
        | some name => .bind name :: piecesFrom (some c) name.length rest
        | none => .char c :: piecesFrom (some c) 0 rest
      else .char c :: piecesFrom (some c) 0 rest

/-- The pieces of a text. -/
def pieces (s : List Char) : List BindPiece := piecesFrom none 0 s

/-- The names of the binds in order. -/
def names (pieces : List BindPiece) : List (List Char) :=
  pieces.filterMap fun
    | .bind name => some name
    | .char _ => none

/-- A colon and a word that no colon follows stand here. -/
def closesEscape : List Char → Bool
  | ':' :: rest => (rest.dropWhile isWordChar).head? != some ':'
  | _ => false

/-- Removes the backslashes in front of escaped colons. -/
def unescape : List Char → List Char
  | [] => []
  | c :: rest => if c = '\\' && closesEscape rest then unescape rest else c :: unescape rest

/-- The text that is sent: a question mark for every bind, escapes removed. -/
def sent (pieces : List BindPiece) : List Char :=
  unescape (pieces.map fun
    | .bind _ => '?'
    | .char c => c)

end BindText

end BoundSql
