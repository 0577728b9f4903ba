import BoundSql.Value.Text

/-!
# Notes on parameters

How a parameter appears in logs and in the contexts of hooks: the kind of its value and a text of
limited length. Containers show their size only, and objects without a safe text their class.
-/

namespace BoundSql

/-- A parameter as a log shows it. -/
structure ParamNote where
  /-- The kind of the value. -/
  kind : String
  /-- The text of the value, cut off if it is long. -/
  text : String
  deriving DecidableEq

namespace Value

/-- The kind of a value in a note. -/
def noteKind : Value → String
  | .null => "null"
  | .text _ => "string"
  | v => v.className

/-- The full text of a value in a note. -/
def noteText : Value → String
  | .null => "null"
  | .bool b => if b then "true" else "false"
  | .int n => (Value.int n).plain
  | .float x => x.text
  | .text s => s
  | .decimal d => d.text
  | .date d => d.text
  | .time t => t.text
  | .datetime d t => isoText d t
  | .list xs => sizeNote xs.length
  | .tuple xs => sizeNote xs.length
  | .set xs => sizeNote xs.length
  | .mapping xs => sizeNote xs.length
  | v => v.className
where
  /-- A container with its size. -/
  sizeNote (n : Nat) : String := "array(" ++ String.ofList (decimalDigits n) ++ ")"

end Value

/-- The leading characters of a text; a negative count leaves off that many at the end. -/
def clip (limit : Int) (s : List Char) : List Char :=
  if limit < 0 then s.take (s.length - limit.natAbs) else s.take limit.toNat

/-- Cuts a text that is longer than the limit and marks the cut with an ellipsis. -/
def abridge (limit : Int) (s : String) : String :=
  let cs := s.toList
  if limit < cs.length then String.ofList (clip limit cs ++ ['…']) else s

/-- The length up to which a parameter is shown in full. -/
def noteLimit : Int := 128

/-- The note of one parameter. -/
def ParamNote.of (limit : Int) (v : Value) : ParamNote := ⟨v.noteKind, abridge limit v.noteText⟩

/-- The notes of parameters. -/
def paramNotes (limit : Int) (params : List Value) : List ParamNote :=
  params.map (ParamNote.of limit)

end BoundSql
