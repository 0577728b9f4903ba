import BoundSql.Sql.Name
import BoundSql.Text.Case

/-!
# Dialects

A dialect is known by the name of its driver. Two facts depend on it: the quote mark around names
and whether savepoints exist.
-/

namespace BoundSql

open Text

/-- The dialect of a driver. -/
structure Dialect where
  /-- The driver's name in small letters without blanks around it. -/
  driver : String
  deriving DecidableEq

namespace Dialect

/-- The dialect of a driver name. -/
def ofDriver (name : String) : Dialect := ⟨String.ofList (lower (trim name.toList))⟩

/-- Drivers that quote names with the grave accent. -/
def graveDrivers : List String := ["mysql", "mariadb"]

/-- Drivers that are known to have savepoints. -/
def savepointDrivers : List String := ["mysql", "mariadb", "postgresql", "sqlite"]

/-- Drivers on which a session chooses its character set with a statement. -/
def charsetDrivers : List String := ["mysql", "mariadb"]

/-- The mark on both sides of a name. -/
def mark (d : Dialect) : Char := if d.driver ∈ graveDrivers then '\x60' else '\x22'

/-- Savepoints exist. -/
def hasSavepoints (d : Dialect) : Bool := d.driver ∈ savepointDrivers

/-- A session chooses its character set with a statement. -/
def choosesCharset (d : Dialect) : Bool := d.driver ∈ charsetDrivers

end Dialect

end BoundSql
