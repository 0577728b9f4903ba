import BoundSql.Session.Connections

/-!
# Nested transactions

A connection at depth zero has no transaction, at depth one a transaction, and at a greater depth
the transaction with savepoints inside, named by the depth they lead to. The depth changes only
when the database has done its part. On a dialect without savepoints there is no nesting.
-/

namespace BoundSql

namespace Session

variable {σ : Type} (around : Surroundings σ)

/-- The name of the savepoint that leads to a depth. -/
def savepointName (depth : Nat) : String := "sp_" ++ String.ofList (decimalDigits depth)

/-- Refuses what needs savepoints on a dialect without them. -/
def requireSavepoints (name : String) (fault : NestingFault) : Act (Session σ) Unit := do
  let dialect ← dialect around name
  if dialect.hasSavepoints then pure () else throw (.nesting fault name dialect.driver)

/-- Runs a statement about savepoints. -/
def savepointCommand (handle : Handle) (verb : String) (depth : Nat) : Act (Session σ) Unit :=
  onOutside (around.driver.command handle (verb ++ savepointName depth))

/-- Starts a transaction, or sets a savepoint inside one; the new depth. -/
def begin (name : String) : Act (Session σ) Nat := do
  let opened ← connection around name
  let depth ← transactionDepth around name
  if depth = 0 then
    onOutside (around.driver.start opened.handle)
    update fun c => c.setDepth name 1
    return 1
  else
    requireSavepoints around name .begin
    savepointCommand around opened.handle "SAVEPOINT " (depth + 1)
    update fun c => c.setDepth name (depth + 1)
    return depth + 1

/-- Commits the innermost level; the new depth. Without a transaction nothing happens. -/
def commit (name : String) : Act (Session σ) Nat := do
  let opened ← connection around name
  let depth ← transactionDepth around name
  if depth = 0 then return 0
  else if depth = 1 then
    onOutside (around.driver.commit opened.handle)
    update fun c => c.setDepth name 0
    return 0
  else
    requireSavepoints around name .commit
    savepointCommand around opened.handle "RELEASE SAVEPOINT " depth
    update fun c => c.setDepth name (depth - 1)
    return depth - 1

/-- Rolls the innermost level back; the new depth. Without a transaction nothing happens. -/
def rollback (name : String) : Act (Session σ) Nat := do
  let opened ← connection around name
  let depth ← transactionDepth around name
  if depth = 0 then return 0
  else if depth = 1 then
    onOutside (around.driver.rollback opened.handle)
    update fun c => c.setDepth name 0
    return 0
  else
    requireSavepoints around name .rollback
    savepointCommand around opened.handle "ROLLBACK TO SAVEPOINT " depth
    update fun c => c.setDepth name (depth - 1)
    return depth - 1

end Session

end BoundSql
