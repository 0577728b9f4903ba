import BoundSql.Value.Text

/-!
# Styles of JSON documents

The choices a writer leaves open: escapes, indentation, separators, order of keys and whether
numbers outside the standard are written. How deep lists and objects may be nested in a
document does not depend on them.
-/

namespace BoundSql

/-- The greatest depth of lists and objects in each other. -/
def Json.depthLimit : Nat := 990

/-- How a JSON document is written. -/
structure JsonStyle where
  /-- Characters outside ASCII are escaped. -/
  asciiOnly : Bool := true
  /-- The text of one level of indentation; none for a document on one line. -/
  indent : Option String := none
  /-- More spaces were asked for as indentation than a machine word can count. -/
  overwide : Bool := false
  /-- The fields of every object are sorted by key. -/
  sortKeys : Bool := false
  /-- The separators after an item and after a key, if they were chosen. -/
  separators : Option (String × String) := none
  /-- Infinities and what is no number are written. -/
  allowNan : Bool := true
  deriving DecidableEq

namespace JsonStyle

/-- The style of row documents unless a caller chooses one. -/
def rows : JsonStyle := { asciiOnly := false }

/-- The separator after an item; no blank is needed where a line ends. -/
def itemSeparator (style : JsonStyle) : String :=
  match style.separators with
  | some pair => pair.1
  | none => if style.indent.isSome then "," else ", "

/-- The separator after a key. -/
def keySeparator (style : JsonStyle) : String :=
  match style.separators with
  | some pair => pair.2
  | none => ": "

/-- The count fits into a machine word of 64 bits with a sign. -/
def fitsWord (n : Int) : Bool := -9223372036854775808 ≤ n && n < 9223372036854775808

/-- An option value asks for more spaces than a machine word can count. -/
def isOverwide : Value → Bool
  | .int n => !fitsWord n
  | _ => false

/-- The indentation that an option value asks for: a count of spaces or a text. -/
def indentOf : Value → Option String
  | .int n => if fitsWord n then some (String.ofList (List.replicate n.toNat ' ')) else none
  | .bool b => some (if b then " " else "")
  | .text s => some s
  | _ => none

/-- The separators that an option value asks for. -/
def separatorsOf (v : Value) : Option (String × String) :=
  match v.sequence? with
  | some [item, key] => some (item.plain, key.plain)
  | _ => none

/-- Sets one named option. -/
def set (style : JsonStyle) (name : String) (v : Value) : JsonStyle :=
  match name with
  | "ensure_ascii" => { style with asciiOnly := v.truthy }
  | "indent" => { style with indent := indentOf v, overwide := isOverwide v }
  | "sort_keys" => { style with sortKeys := v.truthy }
  | "separators" => { style with separators := separatorsOf v }
  | "allow_nan" => { style with allowNan := v.truthy }
  | _ => style

/-- The style of named options; what is not named has its default. -/
def ofOptions (options : List (String × Value)) : JsonStyle :=
  options.foldl (fun style o => style.set o.1 o.2) {}

end JsonStyle

end BoundSql
