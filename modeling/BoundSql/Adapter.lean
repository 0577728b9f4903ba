import BoundSql.Settings.Connection

/-!
# Adapters

An adapter knows how connections to one kind of database are opened. A registry chooses it by the
backend of the data source name; an unknown backend gets the generic one. What an adapter asks for
is an engine: an address with the configured credentials, and named arguments. Options of the
settings win over those of the adapter.
-/

namespace BoundSql

/-- The kinds of adapters. -/
inductive AdapterKind where
  /-- Databases in a file. -/
  | sqlite
  /-- Databases of the MySQL family. -/
  | mysql
  /-- PostgreSQL databases. -/
  | postgresql
  /-- Any other database. -/
  | generic
  /-- Databases with an adapter of the program's own. -/
  | registered
  deriving DecidableEq

/-- Adapters by backend. -/
structure AdapterRegistry where
  /-- The adapter of each known backend. -/
  entries : List (String × AdapterKind)

namespace AdapterRegistry

/-- The backends that are known from the start. -/
def standard : AdapterRegistry :=
  ⟨[("sqlite", .sqlite), ("mysql", .mysql), ("mariadb", .mysql), ("postgresql", .postgresql)]⟩

/-- Gives a backend an adapter of the program's own. -/
def register (registry : AdapterRegistry) (backend : String) : AdapterRegistry :=
  ⟨(registry.entries.filter fun e => e.1 ≠ backend) ++ [(backend, .registered)]⟩

/-- The known backends in order. -/
def backends (registry : AdapterRegistry) : List String :=
  (registry.entries.map Prod.fst).mergeSort fun a b => decide (a ≤ b)

/-- The adapter of a backend. -/
def ofBackend (registry : AdapterRegistry) (backend : String) : AdapterKind :=
  (registry.entries.lookup backend).getD .generic

/-- The adapter for a connection. -/
def choose (registry : AdapterRegistry) (settings : ConnectionSettings) :
    Except Error AdapterKind :=
  match Url.read settings.dsn with
  | .ok url => .ok (registry.ofBackend url.backend)
  | .error .unparsableUrl => do
    throw (.configuration (.invalidDsn (some (← settings.publicView))))
  | .error e => .error e

end AdapterRegistry

/-- What is needed to create an engine. -/
structure Engine where
  /-- The address with its credentials. -/
  url : Url
  /-- Idle connections are tested before use and renewed after an hour. -/
  keepAlive : Bool
  /-- Options handed to the driver. -/
  connectOptions : List (String × Value)
  deriving DecidableEq

namespace Engine

/-- The named arguments with which an engine is created. -/
def arguments (e : Engine) : List (String × Value) :=
  (if e.keepAlive then [("pool_pre_ping", .bool true), ("pool_recycle", .int 3600)] else []) ++
    (if e.connectOptions.isEmpty then [] else [("connect_args", .ofNamed e.connectOptions)])

end Engine

/-- An adapter for one connection. -/
structure Adapter where
  /-- Its kind. -/
  kind : AdapterKind
  /-- The settings of the connection. -/
  settings : ConnectionSettings
  /-- The engine, once it was asked for. -/
  engine : Option Engine := none

namespace Adapter

/-- The time limit under the name that a driver has for it. -/
def timeoutOption (name : String) (settings : ConnectionSettings) : List (String × Value) :=
  if 0 < settings.timeout then [(name, .int settings.timeout)] else []

/-- The options of an adapter of its own. -/
def ownOptions (a : Adapter) : List (String × Value) :=
  match a.kind with
  | .sqlite => ("check_same_thread", .bool false) :: timeoutOption "timeout" a.settings
  | .mysql => timeoutOption "connect_timeout" a.settings
  | .postgresql => timeoutOption "connect_timeout" a.settings
  | .generic => []
  | .registered => []

/-- The adapter's options overridden and completed by those of the settings. -/
def connectOptions (a : Adapter) : List (String × Value) :=
  let override := fun o : String × Value => (o.1, (a.settings.options.lookup o.1).getD o.2)
  let own := a.ownOptions
  own.map override ++ a.settings.options.filter fun o => (own.lookup o.1).isNone

/-- The address of the database with the configured credentials. -/
def address (a : Adapter) : Except Error Url :=
  match Url.read a.settings.dsn with
  | .ok url => .ok (url.withCredentials a.settings.username a.settings.password)
  | .error .unparsableUrl => .error (.configuration (.invalidDsn none))
  | .error e => .error e

/-- The engine, created at the first call and kept for later ones. -/
def getEngine (a : Adapter) : Except Error (Engine × Adapter) :=
  match a.engine with
  | some engine => .ok (engine, a)
  | none => do
    let url ← a.address
    let engine := ⟨url, a.settings.persistent, a.connectOptions⟩
    return (engine, { a with engine := some engine })

end Adapter

end BoundSql
