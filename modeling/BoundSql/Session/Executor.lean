import BoundSql.Session.Connections
import BoundSql.Settings.ErrorMode

/-!
# Executors

An executor runs statements on one connection. Every attempt calls the hooks and is noted in the
log if that is on; a failed attempt may be repeated when a hook asks for it, and what fails for
good becomes an error or an empty result. The hook before a statement and the hook after a failure
are outside the guard of an attempt: their errors end the run at once. The hook after a success is
inside: its error makes the attempt a failed one.
-/

namespace BoundSql

/-- The state of an executor. -/
structure Executor where
  /-- The name of the connection, if one was chosen. -/
  connection : Option String
  /-- Outcomes are logged. -/
  debug : Bool := false
  /-- The greatest count of logged outcomes. -/
  logLimit : Nat := 200
  /-- What becomes of failed statements. -/
  errorMode : ErrorMode := .raise
  /-- The log, oldest outcome first. -/
  log : List LogEntry := []
  /-- The failure of the last statement, if it failed. -/
  lastError : Option Failure := none
  /-- The last statement. -/
  lastQuery : Option LastQuery := none

/-- A failed attempt. -/
structure FailedAttempt where
  /-- What went wrong. -/
  error : Error
  /-- What was noted about it. -/
  failure : Failure

/-- What a hook decided about a failed statement. -/
structure RetryDecision where
  /-- The greatest count of further attempts. -/
  retries : Nat
  /-- Milliseconds to wait before each. -/
  delay : Int
  /-- Whether rows are read then, if that was decided. -/
  fetchRows : Option Bool

namespace Executor

/-- The outcomes that are not beyond a limit, the latest ones. -/
def window (limit : Nat) (log : List LogEntry) : List LogEntry := log.drop (log.length - limit)

/-- Switches the log; a limit below zero leaves no room. -/
def setDebug (x : Executor) (enabled : Bool) (limit : Int) : Executor :=
  { x with debug := enabled, logLimit := limit.toNat, log := window limit.toNat x.log }

/-- Chooses the error mode by its name. -/
def setErrorMode (x : Executor) (name : String) : Except Error Executor := do
  return { x with errorMode := ← ErrorMode.read name }

/-- An executor for another connection with the same modes and a copy of the log. -/
def cloneFor (x : Executor) (connection : String) : Executor :=
  { connection := connection, debug := x.debug, logLimit := x.logLimit, errorMode := x.errorMode,
    log := x.log }

/-- Notes an outcome in the log if that is on. -/
def pushLog (x : Executor) (entry : LogEntry) : Executor :=
  if x.debug && 0 < x.logLimit then { x with log := window x.logLimit (x.log ++ [entry]) } else x

/-- Forgets the last statement. -/
def clearLast (x : Executor) : Executor := { x with lastError := none, lastQuery := none }

/-- Notes a success. -/
def noteSuccess (x : Executor) (success : Success) : Executor :=
  { x with lastError := none, lastQuery := some (.succeeded success) }.pushLog (.succeeded success)

/-- Notes a failure. -/
def noteFailure (x : Executor) (failure : Failure) : Executor :=
  { x with
    lastError := some failure
    lastQuery := some (.failed failure.call.sql failure.call.params) }.pushLog (.failed failure)

variable {σ ρ α : Type}

/-- Does something with the session. -/
def onSession (act : Act (Session σ) α) : Act (ρ × Session σ) α :=
  Act.within Prod.snd (fun t s => (s.1, t)) act

/-- Does something outside. -/
def onOutside (act : Act σ α) : Act (ρ × Session σ) α := onSession (Session.onOutside act)

/-- Changes the executor. -/
def note (f : Executor → Executor) : Act (Executor × Session σ) Unit :=
  Act.change fun s => (f s.1, s.2)

variable (around : Surroundings σ)

/-- Runs a statement once and calls the hook after it; everything here is guarded. -/
def execute (call : Call) (bound : List BoundValue) (fetchRows : Bool) :
    Act (Executor × Session σ) (StatementResult × Option (List Row)) := do
  let prepared ← onSession (Session.statement around call.connection call.sql)
  let ready := prepared.reset.bindAll bound
  onSession (Session.putBack call.connection ready)
  let result ← onOutside (around.driver.execute ready)
  let rows := if fetchRows then some (result.rows.getD []) else none
  let success : Success := ⟨call, result.rowCount⟩
  note fun x => x.noteSuccess success
  onOutside (around.hooks.notify (.afterQuery success rows))
  return (result, rows)

/-- Makes one attempt. `fetchRows` says whether rows are read, `returnRows` what is handed back. -/
def attempt (call : Call) (bound : List BoundValue) (fetchRows returnRows : Bool) :
    Act (Executor × Session σ) (Except FailedAttempt Outcome) := do
  onOutside (around.hooks.notify (.beforeQuery call))
  match ← Act.attempt (execute around call bound fetchRows) with
  | .ok (result, rows) =>
    return .ok (if returnRows then .rows (rows.getD []) else .count result.rowCount)
  | .error e => do
    let failure : Failure := ⟨call, e.message, e.kind⟩
    note fun x => x.noteFailure failure
    onOutside (around.hooks.notify (.onError failure))
    return .error ⟨e, failure⟩

/-- What becomes of a statement that failed for good. -/
def giveUp (returnRows retried : Bool) (failed : FailedAttempt) :
    Act (Executor × Session σ) Outcome := do
  match ← Act.look fun s => s.1.errorMode with
  | .safe => return if returnRows then .rows [] else .count 0
  | .raise => throw (.queryFailed retried failed.failure failed.error)

/-- Reads the answer of the hook that decides about retries: a mapping with a positive count. -/
def readDecision (answer : Value) : Except Error (Option RetryDecision) :=
  match answer.fields? with
  | none => .ok none
  | some fields => do
    let number := fun name : String =>
      match fields.get? (.text name) with
      | some v => if v.truthy then v.toInteger else .ok 0
      | none => .ok 0
    let retries ← number "retries"
    if retries ≤ 0 then return none
    let delay ← number "delay_ms"
    let fetchRows :=
      match fields.get? (.text "fetch_rows") with
      | some .null => none
      | some v => some v.truthy
      | none => none
    return some ⟨retries.toNat, max 0 delay, fetchRows⟩

/-- Asks the hook that decides about retries. -/
def askRetry (call : Call) (failed : FailedAttempt) :
    Act (Executor × Session σ) (Option RetryDecision) := do
  if around.hooks.has .retryDecider then
    let answer ← onOutside (around.hooks.call (.retryDecider call failed.error failed.failure))
    Act.ofExcept (readDecision answer)
  else return none

/-- Some milliseconds in seconds, if there is a double near their quotient. -/
def seconds (milliseconds : Int) : Except Error Double :=
  match Double.ofQuotient milliseconds 1000 with
  | .infinite _ => .error .hugeQuotient
  | x => .ok x

/-- Waits before a further attempt. -/
def pause (delay : Int) : Act (Executor × Session σ) Unit :=
  if 0 < delay then do
    let time ← Act.ofExcept (seconds delay)
    onOutside (around.sleep time)
  else pure ()

/-- Makes further attempts until one succeeds or none are left. -/
def retry (call : Call) (bound : List BoundValue) (fetchRows returnRows : Bool) (delay : Int) :
    Nat → FailedAttempt → Act (Executor × Session σ) Outcome
  | 0, last => giveUp returnRows true last
  | left + 1, _ => do
    pause around delay
    match ← attempt around call bound fetchRows returnRows with
    | .ok outcome => return outcome
    | .error again => retry call bound fetchRows returnRows delay left again

/-- Runs a statement and returns its rows or the count of rows it touched. Integers stand in the
notes about parameters as numerals, so one that has none ends the run before anything is sent. -/
def run (sql : String) (params : List Value) (returnRows : Bool) :
    Act (Executor × Session σ) Outcome := do
  note clearLast
  let bound ← Act.ofExcept (BoundValue.ofValues params)
  let chosen ← Act.look fun s => s.1.connection
  let name ← onSession (Session.configuredName chosen)
  Act.ofExcept (params.forM Value.checkNumeral)
  let call : Call := ⟨name, sql, paramNotes noteLimit params⟩
  match ← attempt around call bound returnRows returnRows with
  | .ok outcome => return outcome
  | .error failed => do
    match ← askRetry around call failed with
    | none => giveUp returnRows false failed
    | some decision =>
      retry around call bound (decision.fetchRows.getD returnRows) returnRows decision.delay
        decision.retries failed

end Executor

end BoundSql
