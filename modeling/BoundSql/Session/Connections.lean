import BoundSql.Named
import BoundSql.Session.Driver
import BoundSql.Sql.Dialect

/-!
# Named connections

A session keeps settings by name and opens a connection when its name is first used. An open
connection has its dialect, its cache of prepared statements and the depth of its transactions. A
connection that could not be set up is not kept.
-/

namespace BoundSql

/-- An open connection. -/
structure Opened where
  /-- Its handle. -/
  handle : Handle
  /-- The dialect it speaks. -/
  dialect : Dialect
  /-- Its prepared statements. -/
  cache : StatementCache Prepared

/-- Named settings and what has been opened of them. -/
structure Connections where
  /-- Settings by name, in the order in which the names came first. -/
  settings : List (String × ConnectionSettings) := []
  /-- Open connections by name, in the order in which they were opened. -/
  opened : List (String × Opened) := []
  /-- Depths of transactions by name. -/
  depths : List (String × Nat) := []

/-- The connections of a program together with the world outside. -/
structure Session (σ : Type) where
  /-- The connections. -/
  connections : Connections
  /-- The world outside. -/
  outside : σ

namespace Connections

/-- Adds settings under a name; blanks around it are removed. -/
def add (c : Connections) (name : String) (settings : ConnectionSettings) :
    Except Error Connections :=
  let name := Text.strip name
  if name = "" then .error (.configuration .blankName)
  else .ok { c with settings := putNamed name settings c.settings }

/-- Adds settings from a mapping; the name is looked at first. -/
def addMapping (c : Connections) (name : String) (fields : Fields) : Except Error Connections :=
  if Text.strip name = "" then .error (.configuration .blankName)
  else do c.add name (← ConnectionSettings.read fields)

/-- Connections from named mappings in order. -/
def ofMappings (entries : List (String × Fields)) : Except Error Connections :=
  entries.foldlM (fun c entry => c.addMapping entry.1 entry.2) {}

/-- Connections from named settings in order. -/
def ofSettings (entries : List (String × ConnectionSettings)) : Except Error Connections :=
  entries.foldlM (fun c entry => c.add entry.1 entry.2) {}

/-- The names that have settings. -/
def names (c : Connections) : List String := c.settings.map Prod.fst

/-- The settings of a name. -/
def getSettings (c : Connections) (name : String) : Except Error ConnectionSettings :=
  match c.settings.lookup name with
  | some settings => .ok settings
  | none => .error (.configuration (.unknownConnection name c.names))

/-- A name that was chosen. -/
def chosenName (c : Connections) : Option String → Except Error String
  | some name => .ok name
  | none => .error (.configuration (.unknownConnection none c.names))

/-- The connection of a name is open. -/
def isOpen (c : Connections) (name : String) : Bool := (c.opened.lookup name).isSome

/-- The depth of transactions on a name. -/
def depth (c : Connections) (name : String) : Nat := (c.depths.lookup name).getD 0

/-- Sets the depth of transactions on a name. -/
def setDepth (c : Connections) (name : String) (depth : Nat) : Connections :=
  { c with depths := putNamed name depth c.depths }

/-- Keeps a connection that was opened, with no transaction. -/
def keep (c : Connections) (name : String) (opened : Opened) : Connections :=
  { c with
    opened := putNamed name opened c.opened
    depths := putNamed name 0 c.depths }

/-- Forgets an open connection and its depth. -/
def forget (c : Connections) (name : String) : Connections :=
  { c with
    opened := dropNamed name c.opened
    depths := dropNamed name c.depths }

/-- The prepared statements of a name. -/
def cacheOf (c : Connections) (name : String) : StatementCache Prepared :=
  match c.opened.lookup name with
  | some opened => opened.cache
  | none => StatementCache.ofSize 0

/-- Sets the prepared statements of an open name. -/
def setCache (c : Connections) (name : String) (cache : StatementCache Prepared) : Connections :=
  match c.opened.lookup name with
  | some opened => { c with opened := putNamed name { opened with cache := cache } c.opened }
  | none => c

end Connections

/-- The state of one connection among all. -/
structure ConnectionStatus where
  /-- Its name. -/
  name : String
  /-- It is open. -/
  active : Bool
  /-- The dialect it speaks, if it is open. -/
  driver : Option String
  /-- The depth of its transactions. -/
  depth : Nat
  /-- The count of its prepared statements. -/
  cached : Nat
  /-- What logs may show of its settings. -/
  settings : PublicSettings

namespace Session

variable {σ α : Type}

/-- Does something outside. -/
def onOutside (act : Act σ α) : Act (Session σ) α :=
  Act.within Session.outside (fun t s => { s with outside := t }) act

/-- Changes the connections. -/
def update (f : Connections → Connections) : Act (Session σ) Unit :=
  Act.change fun s => { s with connections := f s.connections }

/-- Looks at the connections. -/
def view (f : Connections → α) : Act (Session σ) α := Act.look fun s => f s.connections

/-- The settings of a name. -/
def getSettings (name : String) : Act (Session σ) ConnectionSettings := fun s =>
  (s.connections.getSettings name, s)

/-- A name that was chosen. -/
def chosenName (name : Option String) : Act (Session σ) String := fun s =>
  (s.connections.chosenName name, s)

/-- A name that was chosen and has settings. -/
def configuredName (name : Option String) : Act (Session σ) String := do
  let name ← chosenName name
  let _ ← getSettings name
  return name

variable (around : Surroundings σ)

/-- Closes a handle that was not kept, and goes on with an error. -/
def abandon (handle : Handle) (e : Error) : Act (Session σ) α := do
  onOutside (around.driver.close handle)
  throw e

/-- Chooses the character set of a new connection if its dialect does that with a statement. -/
def chooseCharset (name : String) (handle : Handle) (dialect : Dialect)
    (settings : ConnectionSettings) : Act (Session σ) Unit := do
  if dialect.choosesCharset && settings.charset ≠ "" then
    if settings.charsetIsSafe then
      match ← Act.attempt (onOutside
          (around.driver.command handle ("SET NAMES " ++ settings.charset))) with
      | .ok () => pure ()
      | .error e =>
        onOutside (around.driver.close handle)
        throw (.charsetFailed name (← Act.ofExcept settings.publicView) e)
    else abandon around handle (.configuration (.unsafeCharset settings.charset))

/-- Opens a connection and keeps it. -/
def openConnection (name : String) : Act (Session σ) Opened := do
  let settings ← getSettings name
  let kind ← Act.ofExcept (around.adapters.choose settings)
  match ← Act.attempt (onOutside (around.driver.connect kind settings)) with
  | .error e => throw (.connectFailed name (← Act.ofExcept settings.publicView) e)
  | .ok handle => do
    let driverName ← onOutside (Act.look (around.driver.dialectName handle))
    let dialect := Dialect.ofDriver driverName
    chooseCharset around name handle dialect settings
    let opened : Opened := ⟨handle, dialect, StatementCache.ofSize settings.cacheSize⟩
    update fun c => c.keep name opened
    let shown ← Act.ofExcept settings.publicView
    onOutside (around.hooks.notify (.onConnect name shown dialect.driver))
    return opened

/-- The connection of a name, opened if it is not open. -/
def connection (name : String) : Act (Session σ) Opened := do
  match ← view fun c => c.opened.lookup name with
  | some opened => return opened
  | none => openConnection around name

/-- The dialect of a connection. -/
def dialect (name : String) : Act (Session σ) Dialect := do
  return (← connection around name).dialect

/-- Prepares a statement on a handle. -/
def prepare (handle : Handle) (sql : String) : Act σ Prepared := do
  around.driver.prepare handle sql
  return { handle := handle, sql := sql }

/-- The statement of a text on a connection, taken from the cache or prepared. -/
def statement (name sql : String) : Act (Session σ) Prepared := do
  let opened ← connection around name
  Act.within (fun s => (s.connections.cacheOf name, s.outside))
    (fun t s => ⟨s.connections.setCache name t.1, t.2⟩)
    (StatementCache.get (prepare around opened.handle) sql)

/-- Puts a statement back into the cache it came from, with its bound values. -/
def putBack (name : String) (statement : Prepared) : Act (Session σ) Unit :=
  update fun c => c.setCache name ((c.cacheOf name).replace statement.sql statement)

/-- The cache of a connection. -/
def statementCache (name : String) : Act (Session σ) (StatementCache Prepared) := do
  let _ ← connection around name
  view fun c => c.cacheOf name

/-- The depth of transactions on a connection. -/
def transactionDepth (name : String) : Act (Session σ) Nat := do
  let _ ← connection around name
  view fun c => c.depth name

/-- Sets the depth of transactions; below zero it becomes zero. -/
def setTransactionDepth (name : String) (depth : Int) : Act (Session σ) Unit :=
  update fun c => c.setDepth name depth.toNat

/-- The key of the row that was added last on a connection. -/
def insertId (name : String) : Act (Session σ) Value := do
  let opened ← connection around name
  onOutside (Act.look (around.driver.insertId opened.handle))

/-- Closes the connection of a name; an error while closing is ignored. -/
def closeConnection (name : String) : Act (Session σ) Unit := do
  let opened? ← view fun c => c.opened.lookup name
  update fun c => c.forget name
  match opened? with
  | some opened => do
    let _ ← Act.attempt (onOutside (around.driver.close opened.handle))
    return ()
  | none => return ()

/-- Closes connections in order. -/
def closeConnections : List String → Act (Session σ) Unit
  | [] => pure ()
  | name :: rest => do
    closeConnection around name
    closeConnections rest

/-- Closes all open connections. -/
def closeAll : Act (Session σ) Unit := do
  closeConnections around (← view fun c => c.opened.map Prod.fst)

end Session

/-- The state of one connection. -/
def Connections.statusOf (c : Connections) (name : String) (settings : ConnectionSettings) :
    Except Error ConnectionStatus := do
  let opened? := c.opened.lookup name
  return {
    name := name
    active := opened?.isSome
    driver := opened?.map fun opened => opened.dialect.driver
    depth := c.depth name
    cached := (opened?.map fun opened => opened.cache.size).getD 0
    settings := ← settings.publicView }

/-- The states of all connections. -/
def Connections.status (c : Connections) : Except Error (List ConnectionStatus) :=
  c.settings.mapM fun entry => c.statusOf entry.1 entry.2

end BoundSql
