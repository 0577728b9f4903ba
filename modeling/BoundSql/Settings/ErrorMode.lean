import BoundSql.Error
import BoundSql.Text.Blank
import BoundSql.Text.Case

/-!
# Error modes

What becomes of a statement that failed for good: an error, or an empty result.
-/

namespace BoundSql

open Text

/-- What becomes of a failed statement. -/
inductive ErrorMode where
  /-- An error is raised. -/
  | raise
  /-- The result is empty. -/
  | safe
  deriving DecidableEq

namespace ErrorMode

/-- The name of a mode. -/
def text : ErrorMode → String
  | .raise => "exception"
  | .safe => "safe"

/-- The mode of a name. -/
def ofText? (name : String) : Option ErrorMode :=
  [raise, safe].find? fun mode => mode.text == name

/-- Reads the name of a mode, whatever its case and the blanks around it. -/
def read (name : String) : Except Error ErrorMode :=
  let word := String.ofList (lower (trim name.toList))
  match ofText? word with
  | some mode => .ok mode
  | none => .error (.argument (.errorMode word))

end ErrorMode

end BoundSql
