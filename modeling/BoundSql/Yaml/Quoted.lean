import BoundSql.Text.Percent
import BoundSql.Yaml.Cursor

/-!
# Quoted scalars of documents

A scalar between quote marks may go on over several lines: blanks around a line break are left
out, one break stands for a space, and of several breaks the first stands for nothing. Between
single marks a mark is written twice; between double marks a backslash begins an escape.
-/

namespace BoundSql.Yaml

open Text

/-- What stands between two characters of a scalar. -/
inductive Gap where
  /-- Blanks on one line. -/
  | blanks (text : List Char)
  /-- Line breaks: the first one, unless it was escaped, and those that follow. -/
  | lines (first : Option Char) (more : List Char)

namespace Gap

/-- Nothing in between. -/
def none : Gap := .blanks []

/-- What a gap stands for. -/
def text : Gap → List Char
  | .blanks cs => cs
  | .lines (some '\n') [] => [' ']
  | .lines (some '\n') more => more
  | .lines (some c) more => c :: more
  | .lines Option.none more => more

/-- A gap with one more blank. -/
def blank (c : Char) : Gap → Gap
  | .blanks cs => .blanks (cs ++ [c])
  | gap => gap

/-- A gap with one more line break. -/
def newline (c : Char) : Gap → Gap
  | .blanks _ => .lines (some (breakText c)) []
  | .lines first more => .lines first (more ++ [breakText c])

/-- A gap goes over the end of a line. -/
def crossesLine : Gap → Bool
  | .lines _ _ => true
  | .blanks _ => false

end Gap

/-- What a letter behind a backslash stands for. -/
def escapes : List (Char × Char) :=
  [('0', '\x00'), ('a', '\x07'), ('b', '\x08'), ('t', '\t'), ('\t', '\t'), ('n', '\n'),
    ('v', '\x0b'), ('f', '\x0c'), ('r', '\r'), ('e', '\x1b'), (' ', ' '), ('\x22', '\x22'),
    ('\\', '\\'), ('/', '/'), ('N', '\x85'), ('_', '\xa0'), ('L', '\u2028'), ('P', '\u2029')]

/-- How many hexadecimal digits follow a letter behind a backslash. -/
def escapeLengths : List (Char × Nat) := [('x', 2), ('u', 4), ('U', 8)]

/-- The character of a number. -/
def charOfCode (code : Nat) : Except Fault Char :=
  if code < 0x110000 then .ok (Char.ofNat code)
  else if code < 0x80000000 then
    .error (.scalar (.raised "ValueError" "chr() arg not in range(0x110000)"))
  else .error (.scalar (.raised "OverflowError" "Python int too large to convert to C int"))

/-- Where a reader of a quoted scalar is. -/
inductive QuotedPlace where
  /-- Between two characters. -/
  | between (gap : Gap)
  /-- Behind a single mark, which ends the scalar unless another one follows. -/
  | mark
  /-- Behind a backslash. -/
  | escape
  /-- Before the last digits of an escape, with the value of those read. -/
  | digits (left code : Nat)

/-- A text in front of the rest of a scalar, one more character being read. -/
def prepend (text : List Char) : Except Fault (List Char × Nat) → Except Fault (List Char × Nat)
  | .ok (rest, count) => .ok (text ++ rest, count + 1)
  | .error fault => .error fault

/-- The text of a quoted scalar behind its opening mark, and the count of characters read. -/
def readQuoted (double : Bool) : QuotedPlace → List Char → Except Fault (List Char × Nat)
  | .mark, [] => .ok ([], 0)
  | _, [] => .error (.document .tokens)
  | .mark, c :: rest =>
    if c == '\x27' then prepend [c] (readQuoted double (.between .none) rest) else .ok ([], 0)
  | .between gap, c :: rest =>
    if double && c == '\x22' then .ok (gap.text, 1)
    else if !double && c == '\x27' then prepend gap.text (readQuoted double .mark rest)
    else if c == ' ' || c == '\t' then prepend [] (readQuoted double (.between (gap.blank c)) rest)
    else if isBreak c then
      if isMarker rest then .error (.document .tokens)
      else prepend [] (readQuoted double (.between (gap.newline c)) rest)
    else if double && c == '\\' then prepend gap.text (readQuoted double .escape rest)
    else prepend (gap.text ++ [c]) (readQuoted double (.between .none) rest)
  | .escape, c :: rest =>
    if isBreak c then
      if isMarker rest then .error (.document .tokens)
      else prepend [] (readQuoted double (.between (.lines none [])) rest)
    else
      match escapes.lookup c, escapeLengths.lookup c with
      | some meant, _ => prepend [meant] (readQuoted double (.between .none) rest)
      | none, some length => prepend [] (readQuoted double (.digits length 0) rest)
      | none, none => .error (.document .tokens)
  | .digits left code, c :: rest =>
    match hexValue? c with
    | none => .error (.document .tokens)
    | some d =>
      if 1 < left then prepend [] (readQuoted double (.digits (left - 1) (code * 16 + d)) rest)
      else
        match charOfCode (code * 16 + d) with
        | .error fault => .error fault
        | .ok meant => prepend [meant] (readQuoted double (.between .none) rest)

end BoundSql.Yaml
