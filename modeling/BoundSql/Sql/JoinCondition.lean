import BoundSql.Sql.Name
import BoundSql.Sql.Operator

/-!
# Join conditions

A join condition is a column-like text, a comparison sign and another column-like text, with any
blanks around and between them. Nothing else is accepted; whether the two texts are columns is
decided later.
-/

namespace BoundSql

open Text

/-- What may follow in a column-like text: name characters, dots and stars. -/
def isColumnChar (c : Char) : Bool := isNameChar c || c == '.' || c == '*'

/-- Two column-like texts and the sign between them. -/
structure JoinCondition where
  /-- The text on the left. -/
  left : String
  /-- The comparison. -/
  sign : Comparison
  /-- The text on the right. -/
  right : String
  deriving DecidableEq

namespace JoinCondition

/-- Splits off the longest column-like text, if one begins here. -/
def takeColumn? : List Char → Option (List Char × List Char)
  | [] => none
  | c :: rest =>
    if isNameStart c then some (c :: rest.takeWhile isColumnChar, rest.dropWhile isColumnChar)
    else none

/-- Splits off the longest comparison sign, if one begins here. -/
def takeSign? : List Char → Option (Comparison × List Char)
  | '<' :: '>' :: rest => some (.lessOrGreater, rest)
  | '!' :: '=' :: rest => some (.notEqual, rest)
  | '<' :: '=' :: rest => some (.lessEqual, rest)
  | '>' :: '=' :: rest => some (.greaterEqual, rest)
  | '=' :: rest => some (.equal, rest)
  | '<' :: rest => some (.less, rest)
  | '>' :: rest => some (.greater, rest)
  | _ => none

/-- The condition that a text without blanks around it is. -/
def ofChars? (s : List Char) : Option JoinCondition := do
  let (left, rest) ← takeColumn? s
  let (sign, rest) ← takeSign? (trimLeft rest)
  let (right, rest) ← takeColumn? (trimLeft rest)
  if rest.isEmpty then some ⟨String.ofList left, sign, String.ofList right⟩ else none

/-- Reads a join condition. -/
def read (s : String) : Except Error JoinCondition :=
  match ofChars? (trim s.toList) with
  | some condition => .ok condition
  | none => .error (.unsafeJoin s)

end JoinCondition

end BoundSql
