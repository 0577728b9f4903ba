import BoundSql.Sql.Placeholder
import BoundSql.Text.Blank

/-!
# Templates of statements

A text with binds becomes a template in which the bind `x` is written `%(x)s`; so may be any text
that was there before, since nothing escapes it. Reading a template turns every `%(x)s` of a known
bind into a question mark for the value of `x`. A late mark `__[POSTCOMPILE_x]`, perhaps with a
part between tildes behind the name, stays in the text and takes the value of `x` all the same.
-/

namespace BoundSql

open Text

/-- A part of a template. -/
inductive TemplatePiece where
  /-- An ordinary character. -/
  | char (c : Char)
  /-- A place for the value of a bind. -/
  | slot (name : List Char)
  /-- A mark that takes a value and stays in the text. -/
  | late (name mark : List Char)
  deriving DecidableEq

namespace Template

/-- The template of a text: escapes are removed. -/
def ofBinds (pieces : List BindPiece) : List Char :=
  BindText.unescape (pieces.flatMap fun
    | .bind name => '%' :: '(' :: name ++ [')', 's']
    | .char c => [c])

/-- The name between the parentheses of a slot in front of a text. -/
def slotName? : List Char → Option (List Char)
  | '%' :: '(' :: rest =>
    let name := rest.takeWhile (· != ')')
    match rest.dropWhile (· != ')') with
    | ')' :: 's' :: _ => if name.isEmpty then none else some name
    | _ => none
  | _ => none

/-- The beginning of a late mark. -/
def lateMark : List Char := "__[POSTCOMPILE_".toList

/-- How long a text is up to the end of a part between tildes, on one line. -/
def tildesLength? : List Char → Option Nat
  | '~' :: '~' :: ']' :: _ => some 3
  | c :: rest => if c = '\n' then none else (tildesLength? rest).map (· + 1)
  | [] => none

/-- How long the end of a late mark is that stands behind its name. -/
def lateEnd? : List Char → Option Nat
  | ']' :: _ => some 1
  | '~' :: '~' :: c :: rest => if c = '\n' then none else (tildesLength? rest).map (· + 3)
  | _ => none

/-- The shortest name behind the beginning of a late mark, and how long the end behind it is. -/
def lateName? : List Char → Option (List Char × Nat)
  | [] => none
  | c :: rest =>
    if isBlank c then none
    else
      match lateEnd? rest with
      | some length => some ([c], length)
      | none => (lateName? rest).map fun found => (c :: found.1, found.2)

/-- The pieces of a slot or late mark in front of a text, and how long it is. -/
def markAt? (known : List (List Char)) (s : List Char) : Option (List TemplatePiece × Nat) :=
  match slotName? s with
  | some name =>
    let length := name.length + 4
    some (if known.contains name then [.slot name] else (s.take length).map .char, length)
  | none =>
    if lateMark.isPrefixOf s then
      (lateName? (s.drop lateMark.length)).map fun found =>
        let length := lateMark.length + found.1.length + found.2
        ([.late found.1 (s.take length)], length)
    else none

/-- Reads a template; `skip` characters belong to a piece that was already read. -/
def readFrom (known : List (List Char)) (skip : Nat) : List Char → List TemplatePiece
  | [] => []
  | c :: rest =>
    match skip with
    | n + 1 => readFrom known n rest
    | 0 =>
      match markAt? known (c :: rest) with
      | some (pieces, length) => pieces ++ readFrom known (length - 1) rest
      | none => .char c :: readFrom known 0 rest

/-- Reads a template with the names of its binds. -/
def read (known : List (List Char)) (s : List Char) : List TemplatePiece := readFrom known 0 s

/-- The template of a text with binds, read. -/
def ofText (pieces : List BindPiece) : List TemplatePiece :=
  read (BindText.names pieces) (ofBinds pieces)

/-- The names of the values that a template takes, in order. -/
def names (pieces : List TemplatePiece) : List (List Char) :=
  pieces.filterMap fun
    | .char _ => none
    | .slot name => some name
    | .late name _ => some name

/-- The text that is sent. -/
def sent (pieces : List TemplatePiece) : List Char :=
  pieces.flatMap fun
    | .char c => [c]
    | .slot _ => ['?']
    | .late _ mark => mark

end Template

end BoundSql
