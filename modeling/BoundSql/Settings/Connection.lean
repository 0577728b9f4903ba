import BoundSql.Dsn
import BoundSql.Settings.Check
import BoundSql.Text.Alnum

/-!
# Settings of a connection

What is needed to open a connection. `ConnectionSettings.read` checks a mapping entry by entry and
reports every issue; some entries go by two names, of which the first one that is there counts.
`ConnectionSettings.publicView` is what logs may show: no password, neither on its own nor within
the data source name.
-/

namespace BoundSql

open Text

/-- The settings of one connection. -/
structure ConnectionSettings where
  /-- The data source name. -/
  dsn : String
  /-- The user name; empty for that of the data source name. -/
  username : String
  /-- The password; empty for that of the data source name. -/
  password : String
  /-- The character set of the session. -/
  charset : String
  /-- Seconds to wait, zero for no limit. -/
  timeout : Int
  /-- Connections are kept open. -/
  persistent : Bool
  /-- Options handed to the driver. -/
  options : List (String × Value)
  /-- The greatest count of cached statements. -/
  cacheSize : Int
  deriving DecidableEq

namespace ConnectionSettings

/-- The message about a missing data source name. -/
def blankDsn : String := "Connection config requires \x22dsn\x22"

/-- A data source name, blanks around it removed; it must not be blank. -/
def readDsn (v : Value) : Checked String := do
  let s ← readText v
  if strip s = "" then .fault (.rejected blankDsn) else .ok (strip s)

/-- A time limit; below zero there is none. -/
def readTimeout (v : Value) : Checked Int := do
  let n ← readInteger v
  return max 0 n

/-- Reads the settings of a connection from its fields. -/
def readFields (fields : Fields) : Checked ConnectionSettings :=
  ((((((((Checked.of ConnectionSettings.mk).apply
    (requiredEntry fields "dsn" readDsn)).apply
    (optionalEntry fields ["username", "user"] "" readText)).apply
    (optionalEntry fields ["password", "pass"] "" readText)).apply
    (optionalEntry fields ["charset"] "utf8mb4" readText)).apply
    (optionalEntry fields ["timeout_seconds", "timeout"] 5 readTimeout)).apply
    (optionalEntry fields ["persistent"] false readTruth)).apply
    (optionalEntry fields ["driver_options", "options"] [] (readMapping Except.ok))).apply
    (optionalEntry fields ["statement_cache_size"] 128 readNatural)

/-- Reads the settings of one connection among others. -/
def check : Value → Checked ConnectionSettings
  | .mapping fields => readFields fields
  | _ => .fault .notConnection

/-- Reads the settings of a connection on its own. -/
def read (fields : Fields) : Except Error ConnectionSettings :=
  match readFields fields with
  | .ok settings => .ok settings
  | .error issues => .error (.configuration (.invalidConnection issues))

/-- The fields that a reader takes back to the same settings. -/
def fields (s : ConnectionSettings) : Fields :=
  [(.text "dsn", .text s.dsn), (.text "username", .text s.username),
    (.text "password", .text s.password), (.text "charset", .text s.charset),
    (.text "timeout_seconds", .int s.timeout), (.text "persistent", .bool s.persistent),
    (.text "driver_options", .ofNamed s.options),
    (.text "statement_cache_size", .int s.cacheSize)]

/-- A character that may stand in the name of a character set. -/
def isCharsetLetter (c : Char) : Bool := isAsciiAlnum c || c == '_'

/-- The name of the character set can be put into a statement. -/
def charsetIsSafe (s : ConnectionSettings) : Bool :=
  !s.charset.toList.isEmpty && s.charset.toList.all isCharsetLetter

/-- What logs may show of the settings. -/
def publicView (s : ConnectionSettings) : Except Error PublicSettings := do
  return ⟨← Dsn.redact s.dsn, s.username, s.charset, s.timeout, s.persistent⟩

/-- A text option of the driver. -/
def textOption (s : ConnectionSettings) (name default : String) : String :=
  match s.options.lookup name with
  | some (.text t) => t
  | _ => default

end ConnectionSettings

end BoundSql
