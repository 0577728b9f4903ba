import BoundSql.Error

/-!
# Places in a document

A cursor stands at a place of a document and knows its line and its column, because indentation
means structure. Line breaks are those of Unicode; a byte order mark takes no column. The module
also holds the faults of a document: what is wrong with its notation, or the error of a scalar
that has the notation of a value but stands for none.
-/

namespace BoundSql.Yaml

/-- Why a document has no value. -/
inductive Fault where
  /-- Something is wrong with its notation. -/
  | document (fault : DocumentFault)
  /-- A scalar stands for no value of its kind. -/
  | scalar (error : Error)

instance : Inhabited Fault := ⟨.document .tokens⟩

/-- A character that ends a line. -/
def isBreak (c : Char) : Bool :=
  c == '\n' || c == '\x85' || c == '\u2028' || c == '\u2029'

/-- What a line break stands for in a scalar. -/
def breakText (c : Char) : Char := if c == '\u2028' || c == '\u2029' then c else '\n'

/-- A space, a line break or the end. -/
def isSpaceOrEnd : Option Char → Bool
  | some c => c == ' ' || isBreak c
  | none => true

/-- A blank, a line break or the end. -/
def isGap (c : Option Char) : Bool := c == some '\t' || isSpaceOrEnd c

/-- A line goes on with the marker of a document's start or end. -/
def isMarker : List Char → Bool
  | a :: b :: c :: rest => a == b && b == c && (a == '-' || a == '.') && isGap rest.head?
  | _ => false

/-- A place in a document. -/
structure Cursor where
  /-- What follows. -/
  rest : List Char
  /-- The count of characters before it. -/
  index : Nat
  /-- The count of lines before it. -/
  line : Nat
  /-- The count of columns before it on its line. -/
  column : Nat

namespace Cursor

/-- The beginning of a document; a byte order mark in front is left out. -/
def start : List Char → Cursor
  | '\ufeff' :: rest => ⟨rest, 1, 0, 0⟩
  | rest => ⟨rest, 0, 0, 0⟩

/-- One character further. -/
def step (c : Cursor) : Cursor :=
  match c.rest with
  | [] => c
  | ch :: rest =>
    if isBreak ch then ⟨rest, c.index + 1, c.line + 1, 0⟩
    else ⟨rest, c.index + 1, c.line, if ch == '\ufeff' then c.column else c.column + 1⟩

/-- Several characters further. -/
def skip : Nat → Cursor → Cursor
  | 0, c => c
  | n + 1, c => skip n c.step

end Cursor

/-- The count of characters up to the next token: spaces, comments and line breaks. -/
def blankLength (inComment : Bool) : List Char → Nat
  | [] => 0
  | c :: rest =>
    if isBreak c then blankLength false rest + 1
    else if inComment || c == ' ' then blankLength inComment rest + 1
    else if c == '#' then blankLength true rest + 1
    else 0

/-- The count of characters up to the next line, if only spaces and a comment are before it. -/
def restOfLine? (inComment : Bool) : List Char → Option Nat
  | [] => some 0
  | c :: rest =>
    if isBreak c then some 1
    else if inComment || c == ' ' then (restOfLine? inComment rest).map (· + 1)
    else if c == '#' then (restOfLine? true rest).map (· + 1)
    else none

end BoundSql.Yaml
