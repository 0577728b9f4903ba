import BoundSql.Yaml.Quoted

/-!
# Plain scalars of documents

A scalar without quote marks ends at a colon with a blank behind it, at a comment, at an indicator
if it stands between brackets, and else at a line that is indented too little.
-/

namespace BoundSql.Yaml

/-- A plain scalar as it was read. -/
structure PlainText where
  /-- Its text. -/
  text : List Char
  /-- The count of characters read, those of the gap behind it too. -/
  count : Nat
  /-- The gap behind it goes over the end of a line. -/
  crossesLine : Bool

/-- An indicator that ends a plain scalar between brackets. -/
def isFlowIndicator (c : Char) : Bool :=
  c == ',' || c == '[' || c == ']' || c == '{' || c == '}'

/-- A character ends a plain scalar that it does not begin. -/
def endsPlain (inFlow : Bool) (c : Char) (next : Option Char) : Bool :=
  c == '\t' || (inFlow && (isFlowIndicator c || c == '?')) ||
    (c == ':' && (isGap next || (inFlow && next.any isFlowIndicator)))

/-- A character behind a gap does not belong to the scalar before it. -/
def endsGap (inFlow : Bool) (indent : Int) (gap : Gap) (column : Nat) (c : Char) : Bool :=
  match gap with
  | .blanks [] => false
  | .blanks _ => c == '#'
  | .lines _ _ => c == '#' || (!inFlow && (column : Int) < indent)

/-- Reads a plain scalar from behind a gap. The column is that behind the last line break. -/
def readPlain (inFlow : Bool) (indent : Int) : Gap → Nat → List Char → PlainText
  | gap, _, [] => ⟨[], 0, gap.crossesLine⟩
  | gap, column, c :: rest =>
    if c == ' ' then
      let r := readPlain inFlow indent (gap.blank c) (column + 1) rest
      { r with count := r.count + 1 }
    else if isBreak c then
      if isMarker rest then ⟨[], 1, true⟩
      else
        let r := readPlain inFlow indent (gap.newline c) 0 rest
        { r with count := r.count + 1 }
    else if endsPlain inFlow c rest.head? || endsGap inFlow indent gap column c then
      ⟨[], 0, gap.crossesLine⟩
    else
      let r := readPlain inFlow indent .none column rest
      ⟨gap.text ++ c :: r.text, r.count + 1, r.crossesLine⟩

end BoundSql.Yaml
