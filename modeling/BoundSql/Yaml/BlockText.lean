import BoundSql.Number.Numeral
import BoundSql.Yaml.Cursor

/-!
# Block scalars of documents

A scalar behind a bar or an angle bracket: the lines below that are indented as far as its first
one. A bar keeps the line breaks; an angle bracket turns a single one between two lines that begin
with no blank into a space. The header may give the indentation and says what becomes of the line
breaks at the end.
-/

namespace BoundSql.Yaml

/-- The header of a block scalar. -/
structure BlockHeader where
  /-- All line breaks at the end are kept, or none; without a choice one of them is. -/
  keep : Option Bool
  /-- The indentation relative to what the scalar belongs to. -/
  indent : Option Nat
  /-- The count of characters. -/
  length : Nat

/-- The choice about line breaks at the end. -/
def keepMark? (c : Char) : Option Bool :=
  if c == '+' then some true else if c == '-' then some false else none

/-- A digit of an indentation. -/
def indentDigit? (c : Char) : Option Nat :=
  if isAsciiDigit c then some (c.toNat - 48) else none

/-- The marks of a header, in either order. -/
def headerMarks (cs : List Char) : BlockHeader :=
  match (cs[0]?).bind keepMark?, (cs[0]?).bind indentDigit? with
  | some keep, _ =>
    match (cs[1]?).bind indentDigit? with
    | some n => ⟨some keep, some n, 2⟩
    | none => ⟨some keep, none, 1⟩
  | none, some n =>
    match (cs[1]?).bind keepMark? with
    | some keep => ⟨some keep, some n, 2⟩
    | none => ⟨none, some n, 1⟩
  | none, none => ⟨none, none, 0⟩

/-- The header of a block scalar; its length reaches to the next line. -/
def blockHeader? (cs : List Char) : Option BlockHeader :=
  let marks := headerMarks cs
  let rest := cs.drop marks.length
  if marks.indent = some 0 || !isSpaceOrEnd rest.head? then none
  else (restOfLine? false rest).map fun n => { marks with length := marks.length + n }

/-- Line breaks and spaces before a line of the scalar. -/
structure Margin where
  /-- What the line breaks stand for. -/
  breaks : List Char
  /-- The greatest column that was reached. -/
  widest : Nat
  /-- The count of characters. -/
  count : Nat

/-- The margin with at most so many spaces on a line; without a limit all spaces belong to it. -/
def readMargin (limit : Option Nat) (column : Nat) : List Char → Margin
  | [] => ⟨[], column, 0⟩
  | c :: rest =>
    if c == ' ' && limit.all (column < ·) then
      let m := readMargin limit (column + 1) rest
      ⟨m.breaks, max column m.widest, m.count + 1⟩
    else if isBreak c then
      let m := readMargin limit 0 rest
      ⟨breakText c :: m.breaks, max column m.widest, m.count + 1⟩
    else ⟨[], column, 0⟩

/-- The lines of a block scalar. -/
structure BlockLines where
  /-- Their text without the last line break. -/
  text : List Char
  /-- The last line break. -/
  lastBreak : List Char
  /-- The line breaks of the blank lines below. -/
  breaks : List Char
  /-- The place behind them. -/
  cursor : Cursor

/-- A line begins with a blank. -/
def startsBlank (cs : List Char) : Bool := cs.head? = some ' ' || cs.head? = some '\t'

/-- What stands for the line break between two lines, with the breaks of blank lines after it. -/
def lineJoint (folded : Bool) (line lineBreak breaks next : List Char) : List Char :=
  if folded && lineBreak == ['\n'] && !startsBlank line && !startsBlank next then
    if breaks.isEmpty then [' '] else []
  else lineBreak

/-- Reads lines with the given indentation; `fuel` bounds their count, and `breaks` are those of
the blank lines above. -/
def readBlockLines (folded : Bool) (indent : Nat) : Nat → List Char → Cursor → BlockLines
  | 0, breaks, c => ⟨[], [], breaks, c⟩
  | fuel + 1, breaks, c =>
    if c.column ≠ indent || c.rest.isEmpty then ⟨[], [], breaks, c⟩
    else
      let line := c.rest.takeWhile fun ch => !isBreak ch
      let behind := Cursor.skip line.length c
      let lineBreak := (behind.rest.take 1).map breakText
      let next := behind.step
      let margin := readMargin (some indent) next.column next.rest
      let next := Cursor.skip margin.count next
      if next.column = indent && !next.rest.isEmpty then
        let more := readBlockLines folded indent fuel margin.breaks next
        let joint := lineJoint folded line lineBreak margin.breaks next.rest
        { more with text := breaks ++ line ++ joint ++ more.text }
      else ⟨breaks ++ line, lineBreak, margin.breaks, next⟩

/-- Reads a block scalar behind its indicator; `parent` is the indentation of what it belongs
to. -/
def readBlockText (folded : Bool) (parent : Int) (c : Cursor) :
    Except Fault (List Char × Cursor) :=
  match blockHeader? c.rest with
  | none => .error (.document .tokens)
  | some header =>
    let least := (parent + 1).toNat
    let least := max least 1
    let c := Cursor.skip header.length c
    let limit := header.indent.map fun n => least + n - 1
    let margin := readMargin limit c.column c.rest
    let indent := limit.getD (max least margin.widest)
    let c := Cursor.skip margin.count c
    let lines := readBlockLines folded indent c.rest.length margin.breaks c
    let ending :=
      match header.keep with
      | some false => []
      | some true => lines.lastBreak ++ lines.breaks
      | none => lines.lastBreak
    .ok (lines.text ++ ending, lines.cursor)

end BoundSql.Yaml
