import BoundSql.Json.KeyOrder
import BoundSql.Json.Style
import BoundSql.Value.Integer

/-!
# Writing JSON documents

Null, truth values, numbers, texts, lists, tuples and mappings have a JSON form; every other value
is written as its text. Keys are texts, or numbers and literals in their JSON form. Lists, tuples and
mappings nested deeper than `depthLimit` are not written.
-/

namespace BoundSql

open Text

namespace Json

/-- A four-digit escape. -/
def unitEscape (n : Nat) : List Char := '\\' :: 'u' :: hexFixed 4 n

/-- The escape of a character, as a pair of units if it does not fit into one. -/
def escape (c : Char) : List Char :=
  let n := c.toNat
  if n < 0x10000 then unitEscape n
  else
    unitEscape (0xd800 + (n - 0x10000) / 1024) ++ unitEscape (0xdc00 + (n - 0x10000) % 1024)

/-- One character of a text. -/
def textChar (asciiOnly : Bool) (c : Char) : List Char :=
  if c = '\x22' then ['\\', '\x22']
  else if c = '\\' then ['\\', '\\']
  else if c = '\n' then ['\\', 'n']
  else if c = '\r' then ['\\', 'r']
  else if c = '\t' then ['\\', 't']
  else if c = '\x0c' then ['\\', 'f']
  else if c = '\x08' then ['\\', 'b']
  else if c.toNat < 32 || (asciiOnly && 126 < c.toNat) then escape c
  else [c]

/-- A text between quote marks. -/
def text (asciiOnly : Bool) (s : String) : List Char :=
  '\x22' :: s.toList.flatMap (textChar asciiOnly) ++ ['\x22']

/-- A number of double precision. -/
def number (style : JsonStyle) (x : Double) : Except Error (List Char) :=
  let outside := fun s : String =>
    if style.allowNan then .ok s.toList
    else .error (.notJsonNumber (if style.indent.isSome then some x.text else none))
  match x with
  | .nan => outside "NaN"
  | .infinite negative => outside (if negative then "-Infinity" else "Infinity")
  | .finite _ _ _ => .ok x.text.toList

/-- The text of a key. -/
def keyText (style : JsonStyle) : Value → Except Error String
  | .text s => .ok s
  | .null => .ok "null"
  | .bool b => .ok (if b then "true" else "false")
  | .int n => (Value.numeralOf n).map String.ofList
  | .float x => (number style x).map String.ofList
  | v =>
    .error (.notJsonKey (if style.indent.isSome then v.className else v.qualifiedClassName))

/-- A new line at a level of indentation; nothing in a document on one line. -/
def newLine (style : JsonStyle) (level : Nat) : List Char :=
  match style.indent with
  | some unit => '\n' :: (List.replicate level unit.toList).flatten
  | none => []

/-- Items between brackets, each on its own line if the document is indented. -/
def bracketed (style : JsonStyle) (level : Nat) (first last : Char) (items : List (List Char)) :
    List Char :=
  if items.isEmpty then [first, last]
  else
    first :: newLine style (level + 1) ++
      joinWith (style.itemSeparator.toList ++ newLine style (level + 1)) items ++
      newLine style level ++ [last]

/-- A field from its key and its written value. -/
def field (style : JsonStyle) (f : Value × Except Error (List Char)) :
    Except Error (List Char) := do
  let key ← keyText style f.1
  let value ← f.2
  return text style.asciiOnly key ++ style.keySeparator.toList ++ value

/-- The fields of an object in the order in which they are written. -/
def arrange (style : JsonStyle) (fields : List (Value × Except Error (List Char))) :
    Except Error (List (Value × Except Error (List Char))) :=
  if style.sortKeys then sortByKey fields else .ok fields

/-- Refuses a list or an object at a level that is too deep. -/
def checkLevel (style : JsonStyle) (level : Nat) : Except Error Unit :=
  if level < depthLimit then .ok () else .error (.tooDeepValue style.indent.isSome)

mutual
/-- The JSON form of a value at a level of nesting. -/
def writeAt (style : JsonStyle) (level : Nat) : Value → Except Error (List Char)
  | .null => .ok ['n', 'u', 'l', 'l']
  | .bool b => .ok (if b then ['t', 'r', 'u', 'e'] else ['f', 'a', 'l', 's', 'e'])
  | .int n => Value.numeralOf n
  | .float x => number style x
  | .list items => do
    checkLevel style level
    return bracketed style level '[' ']' (← writeItems style (level + 1) items)
  | .tuple items => do
    checkLevel style level
    return bracketed style level '[' ']' (← writeItems style (level + 1) items)
  | .mapping fields => do
    checkLevel style level
    let arranged ← arrange style (writeFields style (level + 1) fields)
    return bracketed style level '\x7b' '\x7d' (← arranged.mapM (field style))
  | v => .ok (text style.asciiOnly v.plain)
/-- The JSON forms of items. -/
def writeItems (style : JsonStyle) (level : Nat) : List Value → Except Error (List (List Char))
  | [] => .ok []
  | v :: rest => do
    let first ← writeAt style level v
    let more ← writeItems style level rest
    return first :: more
/-- The JSON forms of field values beside their keys. -/
def writeFields (style : JsonStyle) (level : Nat) :
    List (Value × Value) → List (Value × Except Error (List Char))
  | [] => []
  | (k, v) :: rest => (k, writeAt style level v) :: writeFields style level rest
end

/-- The JSON document of a value. Spaces that cannot be counted are refused whatever the value. -/
def write (style : JsonStyle) (v : Value) : Except Error String :=
  if style.overwide then .error .hugeCount else (writeAt style 0 v).map String.ofList

end Json

end BoundSql
