import BoundSql.Backend
import BoundSql.Named
import BoundSql.Rehearsal.Script
import BoundSql.Session.Autobegin

/-!
# Rehearsals

A world of scripted databases in which sessions can be rehearsed. There are two kinds of
connections: direct ones, for the backend that a program registers itself, and lines that begin
transactions by themselves, for SQLite. Other backends have no driver here.
-/

namespace BoundSql

/-- A direct connection. -/
structure DirectHandle where
  /-- The name of the database. -/
  database : String
  /-- The dialect it speaks. -/
  dialect : String
  /-- The key of the row that was added last. -/
  insertId : Value

/-- A line that begins transactions by itself. -/
structure LineHandle where
  /-- The name of the database. -/
  database : String
  /-- The database is a file. -/
  inFile : Bool
  /-- The database has begun a transaction that it has not ended. -/
  begun : Bool
  /-- What the connection knows of it. -/
  state : Autobegin

/-- A connection of either kind. -/
inductive ScriptedHandle where
  /-- A direct connection. -/
  | direct (handle : DirectHandle)
  /-- A line. -/
  | line (handle : LineHandle)

/-- Scripted databases with everything that happened to them. -/
structure World where
  /-- Databases by name. -/
  databases : List (String × ScriptedDatabase) := []
  /-- Connections in the order in which they were opened. -/
  handles : List ScriptedHandle := []
  /-- The hooks that there are, with their plans. -/
  hookPlans : List (HookPoint × List HookPlan) := []
  /-- What happened, in order. -/
  events : List Event := []

namespace World

/-- The database of a name. -/
def database (w : World) (name : String) : ScriptedDatabase := (w.databases.lookup name).getD {}

/-- Sets the database of a name. -/
def setDatabase (w : World) (name : String) (d : ScriptedDatabase) : World :=
  { w with databases := putNamed name d w.databases }

/-- Queues a reply. -/
def respond (w : World) (name sql : String) (reply : Reply) : World :=
  w.setDatabase name ((w.database name).respond sql reply)

/-- Queues a plan. -/
def plan (w : World) (name : String) (point : FailurePoint) (planned : Planned) : World :=
  w.setDatabase name ((w.database name).plan point planned)

/-- Writes an event down. -/
def record (event : Event) : Act World Unit :=
  Act.change fun w => { w with events := w.events ++ [event] }

/-- Takes the next plan of a point, and fails if it says so; `wrap` makes an error of a kind and a
message. -/
def reach (name : String) (point : FailurePoint) (wrap : String → String → Error) :
    Act World Unit := fun w =>
  let (planned, d) := (w.database name).nextPlan point
  match planned with
  | .pass => (.ok (), w.setDatabase name d)
  | .raise kind message => (.error (wrap kind message), w.setDatabase name d)

/-- Takes the next reply to a statement. -/
def takeReply (name sql : String) : Act World (Option Reply) := fun w =>
  let (reply, d) := (w.database name).nextReply sql
  (.ok reply, w.setDatabase name d)

/-- Sets a handle. -/
def setHandle (w : World) (h : Handle) (handle : ScriptedHandle) : World :=
  { w with handles := w.handles.set h handle }

/-- Adds a handle. -/
def addHandle (handle : ScriptedHandle) : Act World Handle := fun w =>
  (.ok w.handles.length, { w with handles := w.handles ++ [handle] })

/-! ## Direct connections -/

/-- Does something to a database that is written down and may fail. -/
def touch (name : String) (point : FailurePoint) (event : Event) : Act World Unit := do
  record event
  reach name point Error.raised

/-- Opens a direct connection; options choose the database and the dialect. -/
def connectDirect (settings : ConnectionSettings) : Act World Handle := do
  let name := settings.textOption "db" "default"
  touch name .connect (.connect name)
  addHandle (.direct ⟨name, settings.textOption "driver" "sqlite", .null⟩)

/-- Runs a statement on a direct connection. -/
def executeDirect (h : Handle) (direct : DirectHandle) (p : Prepared) :
    Act World StatementResult := do
  let name := direct.database
  touch name .execute (.execute name p.sql (p.boundValues.map Prod.snd))
  match ← takeReply name p.sql with
  | none => return ⟨some [], 0, .null⟩
  | some reply => do
    if reply.insertId ≠ .null then
      Act.change fun w => w.setHandle h (.direct { direct with insertId := reply.insertId })
    return ⟨reply.rows, reply.rowCount.getD 0, reply.insertId⟩

/-! ## Lines -/

/-- Kinds of errors that come from the database itself. -/
def databaseKinds : List String :=
  ["OperationalError", "IntegrityError", "ProgrammingError", "DatabaseError"]

/-- An error on a line: one of the database names it, any other passes unchanged. -/
def lineError (kind message : String) : Error :=
  if kind ∈ databaseKinds then .database kind ("(sqlite3." ++ kind ++ ") " ++ message)
  else .raised kind message

/-- An error after which there is no line: the driver found it closed. -/
def isFatal : Error → Bool
  | .database "ProgrammingError" text =>
    Text.occursIn "Cannot operate on a closed database.".toList text.toList
  | _ => false

/-- Reaches a database for a line. -/
def openLine (name : String) : Act World Unit := do
  record (.lineConnect name)
  reach name .connect lineError

/-- Opens a line to the database of an address. -/
def connectLine (settings : ConnectionSettings) (url : Url) : Act World Handle := do
  let name := settings.textOption "db" "default"
  openLine name
  addHandle (.line ⟨name, url.isFile, false, {}⟩)

/-- The line of a handle. -/
def line? (w : World) (h : Handle) : Option LineHandle :=
  match w.handles[h]? with
  | some (.line l) => some l
  | _ => none

/-- Changes the line of a handle. -/
def changeLine (h : Handle) (f : LineHandle → LineHandle) (w : World) : World :=
  match w.line? h with
  | some l => w.setHandle h (.line (f l))
  | none => w

/-- Sets whether a transaction has begun on a line. -/
def setBegun (h : Handle) (begun : Bool) : Act World Unit :=
  Act.change (changeLine h fun l => { l with begun := begun })

/-- The statement that begins a transaction. -/
def beginSql : String := "BEGIN"

/-- The row as its columns give it; a column that comes again is not repeated. -/
def pickColumns (columns : List Value) (row : Row) : Row :=
  Fields.ofPairs (columns.map fun column => (column, (row.get? column).getD .null))

/-- The rows of a reply with its columns. -/
def Reply.tableRows (reply : Reply) : Option (List Row) :=
  reply.rows.map fun rows =>
    let columns := reply.columns.getD ((rows.head?.map Fields.keys).getD [])
    rows.map (pickColumns columns)

/-- What a line answers. -/
def lineResult : Option Reply → StatementResult
  | some reply => ⟨Reply.tableRows reply, reply.rowCount.getD (-1), reply.insertId⟩
  | none => ⟨none, -1, .null⟩

/-- Runs a statement on a line; the statement that begins a transaction cannot fail. -/
def executeLine (h : Handle) (name sql : String) (values : List BoundValue) :
    Act World StatementResult := do
  record (.lineExecute name sql values)
  if sql = beginSql then setBegun h true else reach name .execute lineError
  return lineResult (← takeReply name sql)

/-- The line of a handle as a wire. -/
def wire (h : Handle) (name : String) (inFile : Bool) : Wire World where
  connect := do
    openLine name
    setBegun h false
  start := do
    let _ ← executeLine h name beginSql []
    return ()
  execute := executeLine h name
  commit := do
    record (.lineCommit name)
    reach name .commit lineError
    setBegun h false
  rollback := do
    if ← Act.look fun w => (w.line? h).any LineHandle.begun then
      record (.lineRollback name)
      reach name .rollback lineError
      setBegun h false
  close := record (.lineClose name)
  isFatal := isFatal
  mayLinger := inFile

/-- Does something with the connection on a line. -/
def onLine {α : Type} (h : Handle) (act : Act (Autobegin × World) α) : Act World α :=
  Act.within (fun w => (((w.line? h).map LineHandle.state).getD {}, w))
    (fun t _ => changeLine h (fun l => { l with state := t.1 }) t.2) act

/-! ## The driver -/

/-- The engine of an adapter. One for databases in files is really made, which its address may
forbid; any other is only asked for. -/
def rehearseEngine (adapter : Adapter) : Except Error (Engine × Adapter) := do
  let (engine, kept) ← adapter.getEngine
  if engine.url.backend = "sqlite" || adapter.kind = .sqlite then Backend.check engine.url
  return (engine, kept)

/-- Opens a connection through an engine. -/
def connectEngine (kind : AdapterKind) (settings : ConnectionSettings) : Act World Handle := do
  let adapter : Adapter := { kind := kind, settings := settings }
  let (engine, _) ← Act.ofExcept adapter.getEngine
  Act.ofExcept (Backend.check engine.url)
  connectLine settings engine.url

/-- Opens a connection. -/
def connect (kind : AdapterKind) (settings : ConnectionSettings) : Act World Handle :=
  if kind = .registered then connectDirect settings else connectEngine kind settings

/-- Does something with a connection of either kind. -/
def onHandle {α : Type} (h : Handle) (direct : DirectHandle → Act World α)
    (line : Wire World → Act (Autobegin × World) α) (other : Act World α) : Act World α := do
  match (← Act.look fun w => w.handles[h]?) with
  | some (.direct d) => direct d
  | some (.line l) => onLine h (line (wire h l.database l.inFile))
  | none => other

/-- The name of the dialect that a connection speaks. -/
def dialectName (h : Handle) (w : World) : String :=
  match w.handles[h]? with
  | some (.direct d) => d.dialect
  | _ => "sqlite"

/-- The key of the row that was added last. -/
def insertId (h : Handle) (w : World) : Value :=
  match w.handles[h]? with
  | some (.direct d) => d.insertId
  | some (.line l) => l.state.insertId
  | none => .null

/-- The scripted databases as a driver. -/
def driver : Driver World where
  connect := connect
  dialectName := dialectName
  prepare h sql := onHandle h
    (fun d => touch d.database .prepare (.prepare d.database sql)) (fun _ => pure ()) (pure ())
  execute p := onHandle p.handle
    (fun d => executeDirect p.handle d p) (fun wire => Autobegin.execute wire p)
    (pure ⟨none, 0, .null⟩)
  start h := onHandle h
    (fun d => touch d.database .start (.start d.database)) Autobegin.start (pure ())
  commit h := onHandle h
    (fun d => touch d.database .commit (.commit d.database)) Autobegin.commit (pure ())
  rollback h := onHandle h
    (fun d => touch d.database .rollback (.rollback d.database)) Autobegin.rollback (pure ())
  command h sql := onHandle h
    (fun d => touch d.database .command (.command d.database sql))
    (fun wire => Autobegin.command wire sql) (pure ())
  insertId := insertId
  close h := onHandle h
    (fun d => touch d.database .close (.close d.database)) Autobegin.close (pure ())

/-! ## Hooks and time -/

/-- Calls a hook: the call is written down, then the next plan is carried out. -/
def callHook (call : HookCall) : Act World Value := do
  record (.hook call)
  let plans ← Act.look fun w => (w.hookPlans.lookup call.point).getD []
  match plans with
  | [] => return .null
  | plan :: later => do
    Act.change fun w =>
      { w with hookPlans := ScriptedDatabase.setQueue call.point later w.hookPlans }
    match plan with
    | .answer v => return v
    | .raise kind message => throw (.raised kind message)

/-- The planned hooks. -/
def hooks (w : World) : Hooks World where
  has point := (w.hookPlans.lookup point).isSome
  call := callHook

/-- Some seconds in milliseconds, rounded to the nearest integer, a half to the even one. -/
def milliseconds (seconds : Double) : Except Error Int :=
  match seconds.mul (Double.ofInt 1000) with
  | .infinite _ => .error (.integer .infinite)
  | x => .ok (x.nearest?.getD 0)

/-- Waits: only the time is written down. -/
def sleep (seconds : Double) : Act World Unit := do
  let time ← Act.ofExcept (milliseconds seconds)
  record (.sleep time)

/-- Everything outside a session that is rehearsed in a world. -/
def surroundings (w : World) (adapters : AdapterRegistry) : Surroundings World where
  driver := driver
  hooks := w.hooks
  sleep := sleep
  adapters := adapters

/-- The events since there were a given count of them. -/
def eventsSince (w : World) (count : Nat) : List Event := w.events.drop count

end World

end BoundSql
