import BoundSql.Session.Driver

/-!
# Scripted databases

Databases that answer as they were told to. Replies are queued for the exact text of a statement,
and the last one stays for good. Failures are queued for the points that a session reaches; a
queue may also let a visit pass. Everything that is done to a database is an event, written down
before it can fail.
-/

namespace BoundSql

/-- The points at which a database may fail. -/
inductive FailurePoint where
  /-- A connection is opened. -/
  | connect
  /-- A statement is prepared. -/
  | prepare
  /-- A statement runs. -/
  | execute
  /-- A transaction is started. -/
  | start
  /-- A transaction is committed. -/
  | commit
  /-- A transaction is rolled back. -/
  | rollback
  /-- A statement without parameters runs. -/
  | command
  /-- A connection is closed. -/
  | close
  deriving DecidableEq

namespace FailurePoint

/-- All points. -/
def all : List FailurePoint :=
  [connect, prepare, execute, start, commit, rollback, command, close]

/-- The name of a point. -/
def text : FailurePoint → String
  | connect => "connect"
  | prepare => "prepare"
  | execute => "execute"
  | start => "begin"
  | commit => "commit"
  | rollback => "rollback"
  | command => "exec"
  | close => "close"

/-- The point of a name. -/
def ofText? (name : String) : Option FailurePoint := all.find? fun p => p.text == name

end FailurePoint

/-- What is planned for a visit. -/
inductive Planned where
  /-- It passes. -/
  | pass
  /-- It fails with an error of a kind. -/
  | raise (kind message : String)
  deriving DecidableEq

/-- What a scripted database answers to a statement. -/
structure Reply where
  /-- The rows, if there are any. -/
  rows : Option (List Row)
  /-- The columns of the rows; those of the first row if they were not chosen. -/
  columns : Option (List Value)
  /-- The count of rows that were touched, if it was chosen. -/
  rowCount : Option Int
  /-- The key of a row that was added. -/
  insertId : Value

/-- A database that answers as it was told to. -/
structure ScriptedDatabase where
  /-- Replies by the text of the statement. -/
  replies : List (String × List Reply) := []
  /-- Plans by point. -/
  plans : List (FailurePoint × List Planned) := []

namespace ScriptedDatabase

/-- Puts a value at the end of the queue of a key. -/
def enqueue {κ α : Type} [DecidableEq κ] (key : κ) (value : α) :
    List (κ × List α) → List (κ × List α)
  | [] => [(key, [value])]
  | entry :: rest =>
    if entry.1 = key then (key, entry.2 ++ [value]) :: rest else entry :: enqueue key value rest

/-- Sets the queue of a key that is there. -/
def setQueue {κ α : Type} [DecidableEq κ] (key : κ) (queue : List α)
    (entries : List (κ × List α)) : List (κ × List α) :=
  entries.map fun entry => if entry.1 = key then (key, queue) else entry

/-- Queues a reply. -/
def respond (d : ScriptedDatabase) (sql : String) (reply : Reply) : ScriptedDatabase :=
  { d with replies := enqueue sql reply d.replies }

/-- Queues a plan. -/
def plan (d : ScriptedDatabase) (point : FailurePoint) (planned : Planned) : ScriptedDatabase :=
  { d with plans := enqueue point planned d.plans }

/-- The next reply to a statement; the last one is not used up. -/
def nextReply (d : ScriptedDatabase) (sql : String) : Option Reply × ScriptedDatabase :=
  match d.replies.lookup sql with
  | some (reply :: later :: more) =>
    (some reply, { d with replies := setQueue sql (later :: more) d.replies })
  | some [reply] => (some reply, d)
  | _ => (none, d)

/-- What is planned for the next visit of a point. -/
def nextPlan (d : ScriptedDatabase) (point : FailurePoint) : Planned × ScriptedDatabase :=
  match d.plans.lookup point with
  | some (planned :: later) => (planned, { d with plans := setQueue point later d.plans })
  | _ => (.pass, d)

end ScriptedDatabase

/-- What a database, a hook or the clock saw. -/
inductive Event where
  /-- A connection was opened. -/
  | connect (database : String)
  /-- A statement was prepared. -/
  | prepare (database sql : String)
  /-- A statement ran with bound values. -/
  | execute (database sql : String) (values : List BoundValue)
  /-- A transaction was started. -/
  | start (database : String)
  /-- A transaction was committed. -/
  | commit (database : String)
  /-- A transaction was rolled back. -/
  | rollback (database : String)
  /-- A statement without parameters ran. -/
  | command (database sql : String)
  /-- A connection was closed. -/
  | close (database : String)
  /-- A line was opened. -/
  | lineConnect (database : String)
  /-- A statement ran on a line. -/
  | lineExecute (database sql : String) (values : List BoundValue)
  /-- A line was committed. -/
  | lineCommit (database : String)
  /-- A line was rolled back. -/
  | lineRollback (database : String)
  /-- A line was closed. -/
  | lineClose (database : String)
  /-- A hook was called. -/
  | hook (call : HookCall)
  /-- Some milliseconds went by. -/
  | sleep (milliseconds : Int)

/-- The event is a call of a hook. -/
def Event.isHook : Event → Bool
  | .hook _ => true
  | _ => false

/-- What a hook is told to do when it is called. -/
inductive HookPlan where
  /-- It answers. -/
  | answer (v : Value)
  /-- It fails with an error of a kind. -/
  | raise (kind message : String)

end BoundSql
