import BoundSql.Sql.Statement
import BoundSql.Value.Equality

/-!
# Compiling queries

From a query, a table and data to a statement with its parameters, or the first error in the order
in which the parts of the statement are written. Parameters come in the order of their
placeholders. An update or a removal without a condition is refused.
-/

namespace BoundSql

open Text

/-- A statement with the parameters of its placeholders. -/
structure Compiled where
  /-- The statement. -/
  statement : Statement
  /-- One parameter for each placeholder, in order. -/
  params : List Value
  deriving DecidableEq

/-- The text of a compiled statement in a dialect. -/
def Compiled.sql (d : Dialect) (c : Compiled) : String := c.statement.sql d

/-- A condition with the parameters of its placeholders. -/
def Condition.compile (c : Condition) : Except Error (Predicate × List Value) := do
  let column ← ColumnRef.read c.column
  let op ← Operator.read c.operator
  match op with
  | .isIn | .notIn =>
    match c.value.sequence? with
    | none => throw (.argument (.needsSequence op.text c.column))
    | some [] => return (.constant (op = .notIn), [])
    | some members => return (.among column op members.length, members)
  | .is | .isNot =>
    match c.value with
    | .null => return (.identity column op .null, [])
    | .bool b => return (.identity column op (.truth b), [])
    | _ => throw (.argument (.needsNullOrTruth op.text c.column))
  | _ => return (.compare column op, [c.value])

/-- Conditions with the parameters of their placeholders. -/
def compileConditions : List Condition → Except Error (Conditions × List Value)
  | [] => .ok ([], [])
  | c :: rest => do
    let (predicate, params) ← c.compile
    let (predicates, more) ← compileConditions rest
    return ((c.connective, predicate) :: predicates, params ++ more)

/-- A joined table. -/
def Join.compile (j : Join) : Except Error JoinClause := do
  let table ← TableRef.read j.table j.label
  let left ← ColumnRef.read j.left
  let right ← ColumnRef.read j.right
  return ⟨j.kind, table, left, j.sign, right⟩

/-- The columns of a select; blank ones are left out. -/
def Columns.compile (columns : Columns) : Except Error (List ColumnRef) :=
  (columns.names.filter fun name => strip name ≠ "").mapM ColumnRef.read

/-- Everything from the table up to the conditions on groups. -/
def Query.compileSource (q : Query) (table : String) : Except Error (Source × List Value) := do
  let path ← Path.read table
  let joins ← q.joins.mapM Join.compile
  let (filters, params) ← compileConditions q.filters
  let grouping ← q.grouping.mapM ColumnRef.read
  let (groupFilters, more) ← compileConditions q.groupFilters
  return (⟨path, joins, filters, grouping, groupFilters⟩, params ++ more)

/-- A bound on rows; its numeral must not be too long. -/
def compileBound : Option Value → Except Error (Option Int)
  | none => .ok none
  | some v => do
    let n ← v.toInteger
    let _ ← Value.numeralOf n
    return some n

/-- A key of an ordering. -/
def OrderTerm.compile (t : OrderTerm) : Except Error (ColumnRef × Direction) := do
  return (← ColumnRef.read t.column, t.direction)

/-- A select of columns. -/
def Query.compileSelect (q : Query) (table : String) (columns : Columns) :
    Except Error Compiled := do
  let refs ← columns.compile
  let (source, params) ← q.compileSource table
  let ordering ← q.ordering.mapM OrderTerm.compile
  let limit ← compileBound q.limit
  let offset ← compileBound q.offset
  return ⟨.select (.columns refs) source ordering limit offset, params⟩

/-- A count of the rows of the same joins and filters; ordering and window are left out. -/
def Query.compileCount (q : Query) (table : String) : Except Error Compiled := do
  let (source, params) ← q.compileSource table
  return ⟨.select .count source [] none none, params⟩

/-- The column names that keys of data stand for. -/
def compileKeys (keys : List Value) : Except Error (List Name) :=
  keys.mapM fun key => Name.read key.plain

/-- An insert of one row. -/
def compileInsert (table : String) (data : Fields) : Except Error Compiled := do
  if data.isEmpty then throw (.argument .emptyInsert)
  let columns ← compileKeys data.keys
  let path ← Path.read table
  return ⟨.insert path columns 1, data.values⟩

/-- The values of rows whose keys are those of the first row, in the same order; the first row
with other keys is reported by its position. -/
def alignRows (keys : List Value) (position : Nat) : List Value → Except Error (List Value)
  | [] => .ok []
  | row :: rest => do
    let fault := Error.argument (.unequalKeys position keys)
    match row.fields? with
    | none => throw fault
    | some fields =>
      if position ≠ 0 && !Value.equalLists fields.keys keys then throw fault
      let more ← alignRows keys (position + 1) rest
      return fields.values ++ more

/-- An insert of rows that share their keys. -/
def compileInsertRows (table : String) (rows : List Value) : Except Error Compiled := do
  match rows with
  | [] => throw (.argument .emptyRows)
  | first :: _ =>
    match first.fields? with
    | none | some [] => throw (.argument .rowsNotMappings)
    | some fields =>
      let params ← alignRows fields.keys 0 rows
      let columns ← compileKeys fields.keys
      let path ← Path.read table
      return ⟨.insert path columns rows.length, params⟩

/-- A change of the rows that meet the conditions. -/
def Query.compileUpdate (q : Query) (table : String) (data : Fields) : Except Error Compiled := do
  if data.isEmpty then throw (.argument .emptyUpdate)
  if q.filters.isEmpty then throw (.wholeTable .update table)
  let columns ← compileKeys data.keys
  let path ← Path.read table
  let (filters, params) ← compileConditions q.filters
  let limit ← compileBound q.limit
  return ⟨.update path columns filters limit, data.values ++ params⟩

/-- A removal of the rows that meet the conditions. -/
def Query.compileDelete (q : Query) (table : String) : Except Error Compiled := do
  if q.filters.isEmpty then throw (.wholeTable .delete table)
  let path ← Path.read table
  let (filters, params) ← compileConditions q.filters
  let limit ← compileBound q.limit
  return ⟨.delete path filters limit, params⟩

end BoundSql
