import BoundSql.Session.Executor
import BoundSql.Session.Transactions
import BoundSql.Settings.Basic
import BoundSql.Sql.Compile

/-!
# Builders

A builder collects clauses for one connection and runs statements made of them. Every call that
runs statements leaves the builder without clauses, also when it ends with an error. A statement
is compiled before anything is sent; compiling opens the connection, because the dialect decides
how names are quoted.
-/

namespace BoundSql

/-- A builder. -/
structure Builder where
  /-- The clauses collected so far. -/
  query : Query := {}
  /-- What runs its statements. -/
  executor : Executor
  /-- How rows are handed out. -/
  mode : FetchMode := .array
  /-- How documents of rows are written. -/
  style : JsonStyle := .rows

/-- Where a page stands among all pages. -/
structure Pagination where
  /-- The count of all rows. -/
  total : Int
  /-- The number of the page, from one on. -/
  page : Int
  /-- The greatest count of rows on a page. -/
  perPage : Int
  /-- The count of pages, at least one. -/
  pages : Int
  deriving DecidableEq

namespace Pagination

/-- There is a page before this one. -/
def hasPrevious (p : Pagination) : Bool := 1 < p.page

/-- There is a page after this one. -/
def hasNext (p : Pagination) : Bool := p.page < p.pages

/-- The count of rows on the pages before. -/
def offset (p : Pagination) : Int := (p.page - 1) * p.perPage

/-- The page that a request leads to. The count of pages is the quotient rounded to double
precision and then up. -/
def of (total page perPage : Int) : Except Error Pagination :=
  match (Double.ofQuotient total perPage).ceiling? with
  | some quotient =>
    let pages := max 1 quotient
    .ok ⟨total, min page pages, perPage, pages⟩
  | none => .error .hugeQuotient

/-- The pagination as a value. -/
def value (p : Pagination) : Value :=
  .ofNamed [("total", .int p.total), ("page", .int p.page), ("per_page", .int p.perPage),
    ("pages", .int p.pages), ("has_prev", .bool p.hasPrevious), ("has_next", .bool p.hasNext)]

end Pagination

namespace Builder

/-- A builder on a connection. -/
def ofConnection (name : String) : Builder := { executor := { connection := name } }

/-- The name of the connection, if one was chosen. -/
def connection (b : Builder) : Option String := b.executor.connection

/-- A builder as settings ask for. -/
def ofSettings (s : Settings) : Builder :=
  let executor : Executor :=
    { connection := s.defaultConnection, errorMode := s.errorMode }
  { executor := executor.setDebug s.debug s.logLimit }

/-- A builder for another connection with a copy of clauses, modes and log. -/
def withConnection (b : Builder) (name : String) : Builder :=
  { b with executor := b.executor.cloneFor name }

/-- Asks for documents; without options those chosen before stay. -/
def asJson (b : Builder) (options : List (String × Value)) : Builder :=
  { b with
    mode := .json
    style := if options.isEmpty then b.style else JsonStyle.ofOptions options }

/-- The builder without clauses. -/
def reset (b : Builder) : Builder := { b with query := Query.empty }

variable {σ τ α : Type}

/-- Does something with the executor. -/
def onExecutor (act : Act (Executor × Session σ) α) : Act (Builder × Session σ) α :=
  Act.within (fun s => (s.1.executor, s.2)) (fun t s => ({ s.1 with executor := t.1 }, t.2)) act

/-- Does something with the session. -/
def onSession (act : Act (Session σ) α) : Act (Builder × Session σ) α := Executor.onSession act

/-- Does something with the connection that was chosen, by its name. -/
def onConnection (act : String → Act (Session σ) α) : Act (Builder × Session σ) α := do
  let chosen ← Act.look fun s => s.1.connection
  onSession (Session.chosenName chosen >>= act)

/-- Changes the query; an error leaves it as it was. -/
def changeQuery (f : Query → Except Error Query) : Act (Builder × Session σ) Unit := do
  let query ← Act.look fun s => s.1.query
  let changed ← Act.ofExcept (f query)
  Act.change fun s => ({ s.1 with query := changed }, s.2)

/-- Runs statements and leaves the builder without clauses, however that ends. -/
def clearing (act : Act (Builder × Session σ) α) : Act (Builder × Session σ) α :=
  Act.always act fun s => (s.1.reset, s.2)

variable (around : Surroundings σ)

/-- The dialect of the builder's connection. -/
def dialect : Act (Builder × Session σ) Dialect := onConnection (Session.dialect around)

/-- Runs a statement. -/
def execute (sql : String) (params : List Value) (returnRows : Bool) :
    Act (Builder × Session σ) Outcome :=
  onExecutor (Executor.run around sql params returnRows)

/-- Runs a statement and gives its rows their shape. -/
def fetch (sql : String) (params : List Value) : Act (Builder × Session σ) Shaped := do
  let outcome ← execute around sql params true
  let (mode, style) ← Act.look fun s => (s.1.mode, s.1.style)
  Act.ofExcept (shapeRows outcome.rowList mode style)

/-- Compiles a statement for the dialect of the connection. -/
def compile (compiled : Query → Except Error Compiled) :
    Act (Builder × Session σ) (String × List Value) := do
  let dialect ← dialect around
  let query ← Act.look fun s => s.1.query
  let c ← Act.ofExcept (compiled query)
  return (c.sql dialect, c.params)

/-- A limit that may be given. -/
def limitIfGiven : Value → Act (Builder × Session σ) Unit
  | .null => pure ()
  | count => changeQuery fun q => q.limitTo count

/-- Selects rows. -/
def get (table : String) (limit : Value) (columns : Columns) : Act (Builder × Session σ) Shaped :=
  clearing do
    limitIfGiven limit
    let (sql, params) ← compile around fun q => q.compileSelect table columns
    fetch around sql params

/-- Selects the first row. -/
def getOne (table : String) (columns : Columns) : Act (Builder × Session σ) Value := do
  let shaped ← get around table (.int 1) columns
  Act.ofExcept (firstRow shaped)

/-- Selects the value of a column in the first row. -/
def getValue (table column : String) : Act (Builder × Session σ) Value := do
  let row ← getOne around table (.many [.text column])
  Act.ofExcept (firstValue row)

/-- The count in the first field of the first row; nothing counts as zero. -/
def totalOf : List Row → Except Error Int
  | [] => .ok 0
  | row :: _ => do
    let v ← firstValue (.mapping row)
    if v.truthy then v.toInteger else return 0

/-- Selects one page of rows; a page beyond the last one leads to the last one. -/
def paginate (table : String) (page perPage : Value) (columns : Columns) :
    Act (Builder × Session σ) (Shaped × Pagination) :=
  clearing do
    let page ← Act.ofExcept page.toInteger
    let perPage ← Act.ofExcept perPage.toInteger
    let (countSql, countParams) ← compile around fun q => q.compileCount table
    let counted ← execute around countSql countParams true
    let total ← Act.ofExcept (totalOf counted.rowList)
    let pagination ← Act.ofExcept (Pagination.of total (max 1 page) (max 1 perPage))
    changeQuery fun q => .ok { q with
      limit := some (.int pagination.perPage)
      offset := some (.int pagination.offset) }
    let (sql, params) ← compile around fun q => q.compileSelect table columns
    let data ← fetch around sql params
    return (data, pagination)

/-- Adds one row; the key that the database gave it, or nothing if it failed in safe mode. -/
def insert (table : String) (data : Fields) : Act (Builder × Session σ) Value := do
  clearing do
    let (sql, params) ← compile around fun _ => compileInsert table data
    let _ ← execute around sql params false
  let lastError ← Act.look fun s => s.1.executor.lastError
  if lastError.isSome then return .null
  else onConnection (Session.insertId around)

/-- Compiles a statement and runs it for the count of rows it touches. -/
def change (compiled : Query → Except Error Compiled) : Act (Builder × Session σ) Outcome := do
  let (sql, params) ← compile around compiled
  execute around sql params false

/-- Adds rows with the same keys. -/
def insertRows (table : String) (rows : List Value) : Act (Builder × Session σ) Outcome :=
  clearing (change around fun _ => compileInsertRows table rows)

/-- Changes the rows that meet the conditions. -/
def update (table : String) (data : Fields) : Act (Builder × Session σ) Outcome :=
  clearing (change around fun q => q.compileUpdate table data)

/-- Removes the rows that meet the conditions. -/
def delete (table : String) (limit : Value) : Act (Builder × Session σ) Outcome :=
  clearing do
    limitIfGiven limit
    change around fun q => q.compileDelete table

/-- Runs a statement of the caller's. -/
def rawQuery (sql : String) (params : List Value) : Act (Builder × Session σ) Shaped :=
  clearing (fetch around sql params)

/-- Runs a statement of the caller's for its first row, as a record in object mode and else as a
mapping. -/
def rawQueryOne (sql : String) (params : List Value) : Act (Builder × Session σ) Value := do
  let outcome ← clearing (execute around sql params true)
  let mode ← Act.look fun s => s.1.mode
  match outcome.rowList with
  | [] => return .null
  | row :: _ => return if mode = .object then .record row else .mapping row

/-- Runs a statement of the caller's for its first value. -/
def rawQueryValue (sql : String) (params : List Value) : Act (Builder × Session σ) Value := do
  let row ← rawQueryOne around sql params
  Act.ofExcept (firstValue row)

/-- Starts a transaction, or a nested one; the new depth. -/
def startTransaction : Act (Builder × Session σ) Nat := onConnection (Session.begin around)

/-- Commits the innermost transaction; the new depth. -/
def commit : Act (Builder × Session σ) Nat := onConnection (Session.commit around)

/-- Rolls the innermost transaction back; the new depth. -/
def rollback : Act (Builder × Session σ) Nat := onConnection (Session.rollback around)

/-- The depth of transactions. -/
def transactionDepth : Act (Builder × Session σ) Nat :=
  onConnection (Session.transactionDepth around)

/-- Runs a body inside a transaction: committed when the body ends well, rolled back when it ends
with an error. The builder and its session are a part of the body's state. -/
def transaction (part : τ → Builder × Session σ) (put : Builder × Session σ → τ → τ)
    (body : Act τ α) : Act τ α := do
  let _ ← Act.within part put (startTransaction around)
  match ← Act.attempt body with
  | .ok a => do
    let _ ← Act.within part put (commit around)
    return a
  | .error e => do
    let _ ← Act.within part put (rollback around)
    throw e

/-- Prepares and runs a small statement on a connection. -/
def probe (name : String) : Act (Session σ) Unit := do
  let opened ← Session.connection around name
  Session.onOutside do
    let prepared ← Session.prepare around opened.handle "SELECT 1"
    let _ ← around.driver.execute prepared
    return ()

/-- Asks the hook about the health of the connection, or runs a small statement on it. -/
def healthCheck : Act (Builder × Session σ) Bool := do
  if around.hooks.has .healthCheck then
    let chosen ← Act.look fun s => s.1.connection
    let answer ← Executor.onOutside (around.hooks.call (.healthCheck chosen))
    return answer.truthy
  else
    match ← Act.attempt (onConnection (probe around)) with
    | .ok () => return true
    | .error _ => return false

end Builder

end BoundSql
