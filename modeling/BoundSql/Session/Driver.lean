import BoundSql.Adapter
import BoundSql.BoundValue
import BoundSql.Number.Double
import BoundSql.Session.Outcome
import BoundSql.StatementCache

/-!
# What a session works with

A session asks drivers for connections, calls hooks and waits between attempts. All three are
interfaces over a state `σ` of the outside world: a statement about sessions holds for every
driver, every behaviour of hooks and every clock.

A driver knows its connections by handles. A prepared statement belongs to a handle and keeps the
values that were bound to its placeholders last.
-/

namespace BoundSql

/-- The number by which a driver knows one of its connections. -/
abbrev Handle := Nat

/-- A prepared statement. -/
structure Prepared where
  /-- The connection it was prepared on. -/
  handle : Handle
  /-- Its text. -/
  sql : String
  /-- The values bound to its placeholders by position, counted from one. -/
  bindings : List (Nat × BoundValue) := []
  deriving DecidableEq

namespace Prepared

/-- The statement without bound values. -/
def reset (p : Prepared) : Prepared := { p with bindings := [] }

/-- Binds a value to a position. -/
def bind (p : Prepared) (position : Nat) (v : BoundValue) : Prepared :=
  { p with bindings := p.bindings.filter (fun b => b.1 ≠ position) ++ [(position, v)] }

/-- Binds values to consecutive positions. -/
def bindFrom (p : Prepared) (position : Nat) : List BoundValue → Prepared
  | [] => p
  | v :: rest => (p.bind position v).bindFrom (position + 1) rest

/-- Binds values to all positions from the first one on. -/
def bindAll (p : Prepared) (values : List BoundValue) : Prepared := p.bindFrom 1 values

/-- The bound values by position. -/
def boundValues (p : Prepared) : List (Nat × BoundValue) :=
  p.bindings.mergeSort fun a b => a.1 ≤ b.1

end Prepared

/-- What a session asks of databases. -/
structure Driver (σ : Type) where
  /-- Opens a connection. -/
  connect : AdapterKind → ConnectionSettings → Act σ Handle
  /-- The name of the dialect that a connection speaks. -/
  dialectName : Handle → σ → String
  /-- Prepares a statement. -/
  prepare : Handle → String → Act σ Unit
  /-- Runs a prepared statement with its bound values; one that the driver does not take is refused
  here. -/
  execute : Prepared → Act σ StatementResult
  /-- Starts a transaction. -/
  start : Handle → Act σ Unit
  /-- Commits a transaction. -/
  commit : Handle → Act σ Unit
  /-- Rolls a transaction back. -/
  rollback : Handle → Act σ Unit
  /-- Runs a statement without parameters and results. -/
  command : Handle → String → Act σ Unit
  /-- The key of the row that was added last. -/
  insertId : Handle → σ → Value
  /-- Closes a connection. -/
  close : Handle → Act σ Unit

/-- The places at which hooks are called. -/
inductive HookPoint where
  /-- Before a statement runs. -/
  | beforeQuery
  /-- After a statement succeeded. -/
  | afterQuery
  /-- After a statement failed. -/
  | onError
  /-- After a connection was opened. -/
  | onConnect
  /-- When a failed statement may be run again. -/
  | retryDecider
  /-- When the health of a connection is asked for. -/
  | healthCheck
  deriving DecidableEq

/-- The name of a place. -/
def HookPoint.text : HookPoint → String
  | .beforeQuery => "before_query"
  | .afterQuery => "after_query"
  | .onError => "on_error"
  | .onConnect => "on_connect"
  | .retryDecider => "retry_decider"
  | .healthCheck => "health_check"

/-- A call of a hook with what it is told. -/
inductive HookCall where
  /-- A statement is about to run. -/
  | beforeQuery (call : Call)
  /-- A statement succeeded; rows only if they were asked for. -/
  | afterQuery (success : Success) (rows : Option (List Row))
  /-- A statement failed. -/
  | onError (failure : Failure)
  /-- A connection was opened. -/
  | onConnect (name : String) (settings : PublicSettings) (driver : String)
  /-- A failed statement may be run again. -/
  | retryDecider (call : Call) (error : Error) (failure : Failure)
  /-- The health of a connection is asked for, if one was chosen. -/
  | healthCheck (connection : Option String)

/-- The place of a call. -/
def HookCall.point : HookCall → HookPoint
  | .beforeQuery _ => .beforeQuery
  | .afterQuery _ _ => .afterQuery
  | .onError _ => .onError
  | .onConnect _ _ _ => .onConnect
  | .retryDecider _ _ _ => .retryDecider
  | .healthCheck _ => .healthCheck

/-- What a session calls at fixed places. -/
structure Hooks (σ : Type) where
  /-- There is a hook at the place. -/
  has : HookPoint → Bool
  /-- Calls a hook; its answer matters at some places only. -/
  call : HookCall → Act σ Value

/-- Calls a hook if there is one and ignores its answer. -/
def Hooks.notify {σ : Type} (hooks : Hooks σ) (call : HookCall) : Act σ Unit :=
  if hooks.has call.point then do
    let _ ← hooks.call call
    return ()
  else pure ()

/-- Everything outside a session. -/
structure Surroundings (σ : Type) where
  /-- The databases. -/
  driver : Driver σ
  /-- The hooks. -/
  hooks : Hooks σ
  /-- Waits for some seconds. -/
  sleep : Double → Act σ Unit
  /-- The adapters for backends. -/
  adapters : AdapterRegistry

end BoundSql
