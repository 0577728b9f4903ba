import BoundSql.Settings.EnvReference
import BoundSql.Text.Case

/-!
# Settings from the environment

Two variables, whatever the case of their names, choose the file of settings and the level of the
log. Names of levels are those of the usual scale, and layouts of log lines have names among them;
any other name stands for warnings.
-/

namespace BoundSql

open Text

/-- What the environment chooses. -/
structure EnvironmentSettings where
  /-- The name of the log's level. -/
  logLevel : String
  /-- The path of the settings file. -/
  configFile : Option String
  deriving DecidableEq

namespace EnvironmentSettings

/-- The value of a variable, given its name in small letters; of several that differ in case only
the last one counts. -/
def valueOf? (env : Environment) (name : String) : Option String :=
  env.reverse.findSome? fun v =>
    if String.ofList (lower v.1.toList) = name then some v.2 else none

/-- Reads the environment. -/
def read (env : Environment) : EnvironmentSettings :=
  ⟨(valueOf? env "querycore_log_level").getD "WARNING", valueOf? env "querycore_config_file"⟩

end EnvironmentSettings

namespace LogLevel

/-- The levels by name. -/
def scale : List (String × Nat) :=
  [("NOTSET", 0), ("DEBUG", 10), ("INFO", 20), ("WARN", 30), ("WARNING", 30), ("ERROR", 40),
    ("CRITICAL", 50), ("FATAL", 50)]

/-- The usual layout of a line, with the sign of its notation. -/
def usualLayouts : List (String × String) :=
  [("%", "%(levelname)s:%(name)s:%(message)s"),
    ("\x7b", "\x7blevelname\x7d:\x7bname\x7d:\x7bmessage\x7d"),
    ("$", "$\x7blevelname\x7d:$\x7bname\x7d:$\x7bmessage\x7d")]

/-- The names that stand for layouts. -/
def layouts : List (String × Value) :=
  [("BASIC_FORMAT", .text ((usualLayouts.lookup "%").getD "")),
    ("_STYLES", .ofNamed (usualLayouts.map fun l => (l.1, .tuple [.unknown, .text l.2])))]

/-- The level of warnings. -/
def warning : Nat := 30

/-- The level of a name, whatever its case; the names of layouts give those. -/
def ofName (name : String) : Value :=
  let capitals := String.ofList (upper name.toList)
  match scale.lookup capitals, layouts.lookup capitals with
  | some n, _ => .int n
  | none, some v => v
  | none, none => .int warning

/-- The level to log at: of the given name, else of the one that the environment chooses. -/
def choose (name : Option String) (env : Environment) : Value :=
  ofName (name.getD (EnvironmentSettings.read env).logLevel)

/-- The layout of a line of the log. -/
def lineFormat : String := "%(asctime)s - %(name)s - %(levelname)s - %(message)s"

end LogLevel

end BoundSql
