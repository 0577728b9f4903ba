import BoundSql.Value.Integer
import BoundSql.Sql.JoinCondition

/-!
# Queries

A query is what clause calls have collected so far: filters, joins, grouping, ordering and a
window of rows. Clauses keep the texts they were given; texts are checked when the query is
compiled, except join conditions, join kinds, directions and the window, which are checked at
once. A query built by clause calls has none of the `other` words below; they stand for words that
a query put together by hand may hold.
-/

namespace BoundSql

open Text

/-- How a condition is tied to the ones before it. -/
inductive Connective where
  | and
  | or
  /-- Any other word. -/
  | other (word : String)
  deriving DecidableEq

/-- The word of a connective. -/
def Connective.text : Connective → String
  | .and => "AND"
  | .or => "OR"
  | .other word => word

/-- The connective of a word. -/
def Connective.ofText (word : String) : Connective :=
  if word = "AND" then .and else if word = "OR" then .or else .other word

/-- Which rows a join keeps. -/
inductive JoinKind where
  | inner
  | left
  | right
  /-- Any other word. -/
  | other (word : String)
  deriving DecidableEq

/-- The word of a join kind. -/
def JoinKind.text : JoinKind → String
  | .inner => "INNER"
  | .left => "LEFT"
  | .right => "RIGHT"
  | .other word => word

/-- The join kind of a word. -/
def JoinKind.ofText (word : String) : JoinKind :=
  if word = "INNER" then .inner
  else if word = "LEFT" then .left
  else if word = "RIGHT" then .right
  else .other word

/-- The sign of a join. -/
inductive JoinSign where
  /-- A comparison sign. -/
  | compare (sign : Comparison)
  /-- Any other word. -/
  | other (word : String)
  deriving DecidableEq

/-- The sign as it is written. -/
def JoinSign.text : JoinSign → String
  | .compare sign => sign.text
  | .other word => word

/-- The sign of a word. -/
def JoinSign.ofText (word : String) : JoinSign :=
  match Comparison.all.find? fun sign => sign.text == word with
  | some sign => .compare sign
  | none => .other word

/-- The direction of an ordering. -/
inductive Direction where
  | ascending
  | descending
  /-- Any other word. -/
  | other (word : String)
  deriving DecidableEq

/-- The word of a direction. -/
def Direction.text : Direction → String
  | .ascending => "ASC"
  | .descending => "DESC"
  | .other word => word

/-- The direction of a word. -/
def Direction.ofText (word : String) : Direction :=
  if word = "ASC" then .ascending else if word = "DESC" then .descending else .other word

/-- A condition on rows or groups. -/
structure Condition where
  /-- How it is tied to the conditions before it. -/
  connective : Connective
  /-- The column. -/
  column : String
  /-- The operator. -/
  operator : String
  /-- The value to compare with. -/
  value : Value
  deriving DecidableEq

/-- A joined table. -/
structure Join where
  /-- Which rows are kept. -/
  kind : JoinKind
  /-- The table. -/
  table : String
  /-- The name it goes by. -/
  label : Option String
  /-- The column on the left. -/
  left : String
  /-- The comparison. -/
  sign : JoinSign
  /-- The column on the right. -/
  right : String
  deriving DecidableEq

/-- One key of an ordering. -/
structure OrderTerm where
  /-- The column. -/
  column : String
  /-- The direction. -/
  direction : Direction
  deriving DecidableEq

/-- The clauses collected so far. -/
structure Query where
  /-- Conditions on rows. -/
  filters : List Condition := []
  /-- Conditions on groups. -/
  groupFilters : List Condition := []
  /-- Joined tables. -/
  joins : List Join := []
  /-- Columns to group by. -/
  grouping : List String := []
  /-- Keys to order by. -/
  ordering : List OrderTerm := []
  /-- The greatest count of rows, an integer once a clause call has set it. -/
  limit : Option Value := none
  /-- The count of rows to pass over, an integer once a clause call has set it. -/
  offset : Option Value := none
  deriving DecidableEq

/-- Which columns a select asks for. -/
inductive Columns where
  /-- One column text. -/
  | one (name : String)
  /-- A list of columns. -/
  | many (names : List Value)

/-- The texts of the columns. -/
def Columns.names : Columns → List String
  | .one name => [name]
  | .many names => names.map Value.plain

/-- All columns. -/
def Columns.all : Columns := .one "*"

namespace Query

/-- The query without clauses. -/
def empty : Query := {}

/-- No clause has been collected. -/
def isEmpty (q : Query) : Bool := decide (q = empty)

/-- Adds a condition on rows. -/
def filter (q : Query) (connective : Connective) (column : String) (value : Value)
    (operator : String) : Query :=
  { q with filters := q.filters ++ [⟨connective, column, operator, value⟩] }

/-- Adds a condition on groups. -/
def filterGroups (q : Query) (connective : Connective) (column : String) (value : Value)
    (operator : String) : Query :=
  { q with groupFilters := q.groupFilters ++ [⟨connective, column, operator, value⟩] }

/-- The kinds of joins that a clause call offers. -/
def joinKinds : List String := ["INNER", "LEFT", "RIGHT"]

/-- Adds a joined table. -/
def join (q : Query) (table condition kind : String) (label : Option String) :
    Except Error Query :=
  let word := String.ofList (upper (trim kind.toList))
  if word ∉ joinKinds then .error (.argument (.joinKind word))
  else do
    let parsed ← JoinCondition.read condition
    let joined : Join :=
      ⟨.ofText word, table, label, parsed.left, .compare parsed.sign, parsed.right⟩
    return { q with joins := q.joins ++ [joined] }

/-- Adds columns to group by; blank ones are left out. -/
def groupBy (q : Query) (columns : Columns) : Query :=
  let names := (columns.names.map strip).filter fun name => name ≠ ""
  { q with grouping := q.grouping ++ names }

/-- The directions that a clause call offers. -/
def directions : List String := ["ASC", "DESC"]

/-- Adds a key to order by. -/
def orderBy (q : Query) (column direction : String) : Except Error Query :=
  let word := String.ofList (upper (trim direction.toList))
  if word ∉ directions then .error (.argument (.orderDirection direction))
  else .ok { q with ordering := q.ordering ++ [⟨column, .ofText word⟩] }

/-- A count of rows from a value; counts below zero become zero. -/
def rowCount (v : Value) : Except Error Value := do
  let n ← v.toInteger
  return .int (max 0 n)

/-- Sets the greatest count of rows. -/
def limitTo (q : Query) (count : Value) : Except Error Query := do
  return { q with limit := some (← rowCount count) }

/-- Sets the count of rows to pass over. -/
def skip (q : Query) (count : Value) : Except Error Query := do
  return { q with offset := some (← rowCount count) }

end Query

end BoundSql
