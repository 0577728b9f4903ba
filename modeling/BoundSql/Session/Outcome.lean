import BoundSql.Shape

/-!
# Outcomes of statements

What is known about a statement once it has run: what the database answered, what the log keeps of
it, and what hooks are told.
-/

namespace BoundSql

/-- What a database answers to a statement. -/
structure StatementResult where
  /-- The rows, if the statement has any. -/
  rows : Option (List Row)
  /-- The count of rows it touched. -/
  rowCount : Int
  /-- The key of a row it added. -/
  insertId : Value

/-- A statement that succeeded. -/
structure Success where
  /-- The statement. -/
  call : Call
  /-- The count of rows it touched. -/
  rowCount : Int
  deriving DecidableEq

/-- An entry of the log. -/
inductive LogEntry where
  /-- A statement that succeeded. -/
  | succeeded (success : Success)
  /-- A statement that failed. -/
  | failed (failure : Failure)
  deriving DecidableEq

/-- The last statement of an executor; a failed one is known without its connection. -/
inductive LastQuery where
  /-- It succeeded. -/
  | succeeded (success : Success)
  /-- It failed. -/
  | failed (sql : String) (params : List ParamNote)
  deriving DecidableEq

/-- What a caller gets from an executor. -/
inductive Outcome where
  /-- Rows. -/
  | rows (items : List Row)
  /-- A count of rows. -/
  | count (n : Int)

/-- The rows of an outcome. -/
def Outcome.rowList : Outcome → List Row
  | .rows items => items
  | .count _ => []

/-- The outcome as a value. -/
def Outcome.value : Outcome → Value
  | .rows items => .list (items.map .mapping)
  | .count n => .int n

end BoundSql
