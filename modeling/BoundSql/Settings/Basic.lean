import BoundSql.Settings.Connection
import BoundSql.Settings.EnvReference
import BoundSql.Settings.ErrorMode

/-!
# Settings

All settings of a program: its connections, which of them is the default, and how much is logged.
`Settings.load` resolves references to environment variables and then checks the mapping.
-/

namespace BoundSql

open Text

/-- The settings of a program. -/
structure Settings where
  /-- Connections by name. -/
  connections : List (String × ConnectionSettings)
  /-- The name of the default connection; absent or empty if there are no connections. -/
  defaultConnection : Option String
  /-- Outcomes of statements are logged. -/
  debug : Bool
  /-- The greatest count of logged outcomes. -/
  logLimit : Int
  /-- What becomes of failed statements. -/
  errorMode : ErrorMode

namespace Settings

/-- The connections of a settings mapping; no name may be blank. -/
def readConnections (v : Value) : Checked (List (String × ConnectionSettings)) := do
  let connections ← readMapping ConnectionSettings.check v
  if connections.any fun c => strip c.1 = "" then
    .fault (.rejected (ConfigurationFault.message .blankName))
  else .ok connections

/-- A text or nothing. -/
def readOptionalText : Value → Checked (Option String)
  | .null => .ok none
  | v => (readText v).map some

/-- The exact name of an error mode. -/
def readErrorMode (v : Value) : Checked ErrorMode := do
  let name ← readText v
  match ErrorMode.ofText? name with
  | some mode => .ok mode
  | none => .fault .notErrorMode

/-- A name that is neither absent nor empty. -/
def chosen? : Option String → Option String
  | some name => if name = "" then none else some name
  | none => none

/-- Settles the default connection: a chosen one must be there, else the first one is taken. -/
def settleDefault (s : Settings) : Checked Settings :=
  match chosen? s.defaultConnection with
  | some name =>
    if s.connections.any fun c => c.1 = name then .ok s
    else
      .fault (.rejected ("default_connection '" ++ name ++ "' not found in connections"))
  | none =>
    match s.connections with
    | first :: _ => .ok { s with defaultConnection := some first.1 }
    | [] => .ok s

/-- Checks the fields of a settings mapping. -/
def check (fields : Fields) : Checked Settings := do
  let settings ← (((((Checked.of Settings.mk).apply
    (requiredEntry fields "connections" readConnections)).apply
    (optionalEntry fields ["default_connection"] none readOptionalText)).apply
    (optionalEntry fields ["debug"] false readTruth)).apply
    (optionalEntry fields ["debug_max_log"] 200 readNatural)).apply
    (optionalEntry fields ["error_mode"] ErrorMode.raise readErrorMode)
  settleDefault settings

/-- Loads settings from a mapping. -/
def load (env : Environment) (v : Value) : Except Error Settings :=
  match v with
  | .mapping fields => do
    let fields ← EnvReference.expandFields env fields
    match check fields with
    | .ok settings => return settings
    | .error issues => throw (.configuration (.invalidSettings issues))
  | _ => .error (.configuration .notMapping)

end Settings

end BoundSql
