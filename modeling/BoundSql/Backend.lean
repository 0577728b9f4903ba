import BoundSql.Text.Case
import BoundSql.Url

/-!
# Backends

Which addresses an engine can be made for. The name of an address holds a backend and perhaps a
driver; of the known ones only the drivers for databases in files are at hand. Such a database has
neither user nor host, and the fields of its query that mean something must have values of their
kinds. `Backend.check` looks at all this in a fixed order, so the first fault is the one that is
reported.
-/

namespace BoundSql

open Text

namespace Backend

/-- The names for which there is a driver. -/
def present : List String := ["sqlite", "sqlite+pysqlite", "sqlite+base"]

/-- Other known names with the driver that each would need. -/
def absent : List (String × String) :=
  [("sqlite+aiosqlite", "aiosqlite"), ("sqlite+pysqlcipher", "pysqlcipher3"),
    ("mysql", "MySQLdb"), ("mysql+base", "MySQLdb"), ("mysql+mysqldb", "MySQLdb"),
    ("mysql+pymysql", "pymysql"), ("mysql+aiomysql", "aiomysql"), ("mysql+asyncmy", "asyncmy"),
    ("mysql+cymysql", "cymysql"), ("mysql+mariadbconnector", "mariadb"),
    ("mysql+mysqlconnector", "mysql"), ("mysql+pyodbc", "pyodbc"),
    ("mariadb", "MySQLdb"), ("mariadb+base", "MySQLdb"), ("mariadb+mysqldb", "MySQLdb"),
    ("mariadb+pymysql", "pymysql"), ("mariadb+aiomysql", "aiomysql"),
    ("mariadb+asyncmy", "asyncmy"), ("mariadb+cymysql", "cymysql"),
    ("mariadb+mariadbconnector", "mariadb"), ("mariadb+mysqlconnector", "mysql"),
    ("mariadb+pyodbc", "pyodbc"),
    ("postgresql", "psycopg"), ("postgresql+base", "psycopg"), ("postgresql+psycopg", "psycopg"),
    ("postgresql+psycopg_async", "psycopg"), ("postgresql+psycopg2", "psycopg2"),
    ("postgresql+psycopg2cffi", "psycopg2cffi"), ("postgresql+asyncpg", "asyncpg"),
    ("postgresql+pg8000", "pg8000"),
    ("oracle", "oracledb"), ("oracle+base", "oracledb"), ("oracle+oracledb", "oracledb"),
    ("oracle+oracledb_async", "oracledb"), ("oracle+cx_oracle", "cx_Oracle"),
    ("mssql", "pyodbc"), ("mssql+base", "pyodbc"), ("mssql+pyodbc", "pyodbc"),
    ("mssql+pymssql", "pymssql"), ("mssql+aioodbc", "aioodbc")]

/-- Refuses a name without a driver. -/
def checkName (name : List Char) : Except Error Unit :=
  if present.contains (String.ofList name) then .ok ()
  else if 1 < name.count '+' then .error (.address .nameParts)
  else
    match absent.lookup (String.ofList name) with
    | some driver => .error (.address (.driver driver))
    | none =>
      .error (.address (.dialect (String.ofList (name.map fun c => if c = '+' then '.' else c))))

/-- The values of a field of a query. -/
def field (name : String) (query : List (List Char × List (List Char))) : List (List Char) :=
  (query.lookup name.toList).getD []

/-- The query without some fields. -/
def without (names : List String) (query : List (List Char × List (List Char))) :
    List (List Char × List (List Char)) :=
  query.filter fun f => !names.contains (String.ofList f.1)

/-- Refuses any plugin. -/
def checkPlugins (url : Url) : Except Error Unit :=
  match field "plugin" url.query with
  | name :: _ => .error (.address (.plugin (String.ofList name)))
  | [] => .ok ()

/-- Texts that stand for true. -/
def trueTexts : List String := ["true", "yes", "on", "y", "t", "1"]

/-- Texts that stand for false. -/
def falseTexts : List String := ["false", "no", "off", "n", "f", "0"]

/-- A truth value; one that was given more than once counts as true. -/
def readTruth : List (List Char) → Except Error Bool
  | [] => .ok false
  | [value] =>
    let text := String.ofList (lower (trim value))
    if trueTexts.contains text then .ok true
    else if falseTexts.contains text then .ok false
    else .error (.address (.notTruth (quoted text)))
  | _ => .ok true

/-- Refuses what is no number. -/
def checkNumber : List (List Char) → Except Error Unit
  | [] => .ok ()
  | [value] => do
    let _ ← Value.doubleOfText (String.ofList value)
    return ()
  | _ => .error (.address .repeatedNumber)

/-- Refuses what is no integer. -/
def checkInteger : List (List Char) → Except Error Unit
  | [] => .ok ()
  | [value] => do
    let _ ← Value.integerOfText (String.ofList value)
    return ()
  | _ => .error (.integer (.wrongClass "tuple"))

/-- The fields that an engine for a file reads; all others are part of the name of the file. -/
def fileFields : List String :=
  ["uri", "timeout", "isolation_level", "detect_types", "check_same_thread", "cached_statements"]

/-- Refuses fields with values of other kinds. Further fields need a name that they belong to. -/
def checkFields (url : Url) : Except Error Unit := do
  let named ← readTruth (field "uri" url.query)
  checkNumber (field "timeout" url.query)
  checkInteger (field "detect_types" url.query)
  let _ ← readTruth (field "check_same_thread" url.query)
  checkInteger (field "cached_statements" url.query)
  if named && url.database.isNone && !(without fileFields url.query).isEmpty then
    throw (.address .unnamedFile)

/-- Refuses an address that no engine can be made for. -/
def check (url : Url) : Except Error Unit := do
  checkPlugins url
  checkName url.name
  let url := { url with query := without ["plugin", "plugins"] url.query }
  if !url.isLocal then throw (.address (.notLocal (url.render true)))
  checkFields url

end Backend

/-- The address is that of a file, and not that of a database in memory. -/
def Url.isFile (url : Url) : Bool :=
  (match url.database with
    | some name => !name.isEmpty && String.ofList name != ":memory:"
    | none => false) &&
  Backend.field "mode" url.query != ["memory".toList]

end BoundSql
