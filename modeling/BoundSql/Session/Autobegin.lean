import BoundSql.Session.Binding

/-!
# Connections that begin transactions by themselves

A line to a database on which every statement runs inside a transaction. Outside an explicit
transaction one is begun for each statement and ended behind it: committed if the statement
succeeded, rolled back if it failed. Inside an explicit one statements end nothing.

A transaction whose commit failed is broken: statements are refused until it is rolled back. Some
errors end the line itself. It is opened again before the next statement, but not while a
transaction is left on it. What the line itself does is an interface, so statements about this
discipline hold for every line.
-/

namespace BoundSql

/-- What a line to a database does. -/
structure Wire (σ : Type) where
  /-- Opens the line again. -/
  connect : Act σ Unit
  /-- Begins a transaction. -/
  start : Act σ Unit
  /-- Runs a statement with the values of its parameters. -/
  execute : String → List BoundValue → Act σ StatementResult
  /-- Commits the transaction. -/
  commit : Act σ Unit
  /-- Rolls the transaction back. -/
  rollback : Act σ Unit
  /-- Closes the line. -/
  close : Act σ Unit
  /-- An error after which there is no line. -/
  isFatal : Error → Bool
  /-- A line whose transaction cannot be ended is left alone instead of closed. -/
  mayLinger : Bool

/-- The transaction on a line. -/
inductive LineTransaction where
  /-- There is none. -/
  | absent
  /-- There is one. -/
  | active
  /-- There is one whose commit failed. -/
  | broken
  deriving DecidableEq

/-- A connection that begins transactions by itself. -/
structure Autobegin where
  /-- An explicit transaction is open. -/
  explicit : Bool := false
  /-- The transaction on the line. -/
  inner : LineTransaction := .absent
  /-- The line is gone. -/
  lost : Bool := false
  /-- The line could not be opened again for an explicit transaction. Until one is opened,
  statements begin none. -/
  stalled : Bool := false
  /-- The key of the row that was added last. -/
  insertId : Value := .null
  deriving DecidableEq

namespace Autobegin

variable {σ α : Type}

/-- Does something with the line. -/
def onWire (act : Act σ α) : Act (Autobegin × σ) α :=
  Act.within Prod.snd (fun t s => (s.1, t)) act

/-- Looks at the connection. -/
def view (f : Autobegin → α) : Act (Autobegin × σ) α := Act.look fun s => f s.1

/-- Changes the connection. -/
def update (f : Autobegin → Autobegin) : Act (Autobegin × σ) Unit :=
  Act.change fun s => (f s.1, s.2)

/-- Sets the transaction on the line. -/
def setInner (inner : LineTransaction) : Act (Autobegin × σ) Unit :=
  update fun a => { a with inner := inner }

/-- Sets whether an explicit transaction is open. -/
def setExplicit (explicit : Bool) : Act (Autobegin × σ) Unit :=
  update fun a => { a with explicit := explicit }

/-- A statement's own transaction is on the line. -/
def isImplicit (a : Autobegin) : Bool := !a.explicit && decide (a.inner = .active)

variable (wire : Wire σ)

/-- Does something with the line; a fatal error closes it. -/
def useWire (act : Act σ α) : Act (Autobegin × σ) α := do
  match ← Act.attempt (onWire act) with
  | .ok a => return a
  | .error e => do
    if wire.isFatal e then
      let _ ← Act.attempt (onWire wire.close)
      update fun a => { a with lost := true }
    throw e

/-- Opens the line again. -/
def reconnect : Act (Autobegin × σ) Unit := do
  match ← Act.attempt (onWire wire.connect) with
  | .ok () => update fun a => { a with lost := false }
  | .error (.raised kind message) => throw (.unready kind message)
  | .error e => throw e

/-- Opens the line again if it is gone, unless a transaction is left on it. -/
def ensureLine : Act (Autobegin × σ) Unit := do
  let a ← view id
  if a.lost then
    if a.inner = .absent then reconnect wire else throw .pendingRollback

/-- Begins a transaction unless there is one. -/
def ensureBegun : Act (Autobegin × σ) Unit := do
  let a ← view id
  match a.inner with
  | .active => pure ()
  | .broken => throw .pendingRollback
  | .absent =>
    if !a.stalled then
      onWire wire.start
      setInner .active

/-- Commits what is on the line. -/
def commitLine : Act (Autobegin × σ) Unit := do
  if ← view lost then throw .pendingRollback else useWire wire wire.commit

/-- Rolls back what is on the line. -/
def rollbackLine : Act (Autobegin × σ) Unit := do
  if ← view lost then pure () else useWire wire wire.rollback

/-- Commits the transaction on the line; it is broken if that fails. -/
def commitInner : Act (Autobegin × σ) Unit := do
  match ← view inner with
  | .absent => pure ()
  | .broken => throw .pendingRollback
  | .active =>
    match ← Act.attempt (commitLine wire) with
    | .ok () => setInner .absent
    | .error e =>
      setInner .broken
      throw e

/-- Rolls the transaction on the line back; it is gone even if that fails. -/
def rollbackInner : Act (Autobegin × σ) Unit := do
  match ← view inner with
  | .absent => pure ()
  | .broken => setInner .absent
  | .active => Act.always (rollbackLine wire) fun s => ({ s.1 with inner := .absent }, s.2)

/-- Leaves nothing on the line after an error outside a transaction. -/
def clearing (act : Act (Autobegin × σ) α) : Act (Autobegin × σ) α := do
  match ← Act.attempt act with
  | .ok a => return a
  | .error e => do
    if (← view inner) ≠ .active then rollbackLine wire
    throw e

/-- Ends the transaction of a statement if it was the statement's own. -/
def settle (act : Act (Autobegin × σ) α) : Act (Autobegin × σ) α := do
  match ← Act.attempt act with
  | .ok a => do
    if ← view isImplicit then commitInner wire
    return a
  | .error e => do
    if ← view isImplicit then rollbackInner wire
    throw e

/-- Sends a statement over the line. -/
def send (sql : String) (values : List BoundValue) : Act (Autobegin × σ) StatementResult := do
  ensureBegun wire
  clearing wire (useWire wire (wire.execute sql values))

/-- Takes down what a statement answered. -/
def receive (result : StatementResult) : Act (Autobegin × σ) StatementResult :=
  match result.rows with
  | some rows => pure ⟨some rows, rows.length, .null⟩
  | none => do
    if result.insertId ≠ .null then update fun a => { a with insertId := result.insertId }
    return ⟨none, max 0 result.rowCount, result.insertId⟩

/-- Runs a text with binds. -/
def run (pieces : List BindPiece) (bound : List (Nat × BoundValue)) :
    Act (Autobegin × σ) StatementResult :=
  settle wire do
    ensureLine wire
    let statement ← clearing wire (Act.ofExcept (Binding.statement pieces bound))
    let result ← send wire statement.sql statement.values
    receive result

/-- Executes a prepared statement with its bound values. -/
def execute (p : Prepared) : Act (Autobegin × σ) StatementResult := do
  let pieces ← Act.ofExcept (Binding.pieces p)
  run wire pieces p.boundValues

/-- Runs a statement as it stands, without results. -/
def command (sql : String) : Act (Autobegin × σ) Unit :=
  settle wire do
    ensureLine wire
    let _ ← send wire sql []
    return ()

/-- Opens the line for an explicit transaction if it is gone. -/
def prepareLine : Act (Autobegin × σ) Unit := do
  if ← view lost then
    match ← Act.attempt (reconnect wire) with
    | .ok () => pure ()
    | .error e =>
      update fun a => { a with stalled := true }
      throw e

/-- Opens an explicit transaction; a transaction that is there is committed before. -/
def start : Act (Autobegin × σ) Unit := do
  if (← view inner) = .active then commitInner wire
  if (← view inner) = .broken then throw .alreadyBegun
  prepareLine wire
  onWire wire.start
  update fun a => { a with inner := .active, stalled := false, explicit := true }

/-- Commits the explicit transaction if there is one. It is forgotten before that is tried. -/
def commit : Act (Autobegin × σ) Unit := do
  if ← view explicit then
    setExplicit false
    commitInner wire

/-- Rolls the explicit transaction back if there is one. It is forgotten before that is tried. -/
def rollback : Act (Autobegin × σ) Unit := do
  if ← view explicit then
    setExplicit false
    rollbackInner wire

/-- Leaves the line without a transaction before it is closed. -/
def release : Act (Autobegin × σ) Unit := do
  if ← view explicit then
    rollbackInner wire
    setExplicit false
  match ← view inner with
  | .absent => do
    let _ ← Act.attempt (rollbackLine wire)
    return ()
  | _ => rollbackInner wire

/-- Closes the line whatever comes of the transaction on it, unless it may linger. -/
def close : Act (Autobegin × σ) Unit := do
  let released ← Act.attempt (release wire)
  if !(← view lost) && (released.isOk || !wire.mayLinger) then
    let _ ← Act.attempt (onWire wire.close)
  Act.ofExcept released

end Autobegin

end BoundSql
