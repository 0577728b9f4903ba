import BoundSql.Error
import BoundSql.Text.Blank
import BoundSql.Text.Case

/-!
# Operators of conditions

The closed list of operators. An operator is read without regard to case and to the amount of
blanks around and between its words.
-/

namespace BoundSql

open Text

/-- A comparison sign. -/
inductive Comparison where
  | equal
  | notEqual
  | lessOrGreater
  | less
  | greater
  | lessEqual
  | greaterEqual
  deriving DecidableEq

/-- The sign as it is written. -/
def Comparison.text : Comparison → String
  | .equal => "="
  | .notEqual => "!="
  | .lessOrGreater => "<>"
  | .less => "<"
  | .greater => ">"
  | .lessEqual => "<="
  | .greaterEqual => ">="

/-- All comparison signs. -/
def Comparison.all : List Comparison :=
  [.equal, .notEqual, .lessOrGreater, .less, .greater, .lessEqual, .greaterEqual]

/-- An operator between a column and a value. -/
inductive Operator where
  /-- A comparison of two values. -/
  | compare (sign : Comparison)
  /-- A match with a pattern. -/
  | like
  /-- Membership in a list. -/
  | isIn
  /-- No membership in a list. -/
  | notIn
  /-- Identity with null or a truth value. -/
  | is
  /-- No identity with null or a truth value. -/
  | isNot
  deriving DecidableEq

namespace Operator

/-- The operator as it is written. -/
def text : Operator → String
  | .compare sign => sign.text
  | .like => "LIKE"
  | .isIn => "IN"
  | .notIn => "NOT IN"
  | .is => "IS"
  | .isNot => "IS NOT"

/-- All operators, in the order in which they are listed to a caller. -/
def all : List Operator :=
  Comparison.all.map .compare ++ [.like, .isIn, .notIn, .is, .isNot]

/-- Capital letters, one space between words, none around them. -/
def normalize (s : String) : String :=
  String.ofList (joinWith [' '] (words (upper (trim s.toList))))

/-- Reads an operator. -/
def read (s : String) : Except Error Operator :=
  let normal := normalize s
  match all.find? fun op => op.text == normal with
  | some op => .ok op
  | none => .error (.unsupportedOperator normal (all.map text))

end Operator

end BoundSql
