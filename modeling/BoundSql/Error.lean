import BoundSql.ParamNote
import BoundSql.Settings.Issue

/-!
# Errors

One type for everything that can go wrong, by cause. `Error.kind` names the class of an error and
`Error.message` words it; `Error.report` adds the details that its class carries. Errors of
databases and hooks come from outside and keep the kind and the text they were raised with.
-/

namespace BoundSql

open Text

/-- The part of the connection settings that logs may show. -/
structure PublicSettings where
  /-- The address with its password masked. -/
  dsn : String
  /-- The user name. -/
  username : String
  /-- The character set. -/
  charset : String
  /-- Seconds to wait, zero for no limit. -/
  timeout : Int
  /-- Connections are kept open. -/
  persistent : Bool
  deriving DecidableEq

/-- One statement as logs and hooks see it. -/
structure Call where
  /-- The name of the connection. -/
  connection : String
  /-- The text of the statement. -/
  sql : String
  /-- Notes on its parameters. -/
  params : List ParamNote
  deriving DecidableEq

/-- The context of a failed statement. -/
structure Failure where
  /-- The statement. -/
  call : Call
  /-- The message of the error. -/
  error : String
  /-- The kind of the error. -/
  exception : String
  deriving DecidableEq

/-- What is wrong with an argument. -/
inductive ArgumentFault where
  /-- A parameter of a class without a binding rule. -/
  | unsupportedParameter (className : String)
  /-- An insert without data. -/
  | emptyInsert
  /-- An insert without rows. -/
  | emptyRows
  /-- The first row is no mapping or has no fields. -/
  | rowsNotMappings
  /-- A row whose keys differ from those of the first. -/
  | unequalKeys (row : Nat) (expected : List Value)
  /-- An update without data. -/
  | emptyUpdate
  /-- A membership test of something that has no members. -/
  | needsSequence (operator column : String)
  /-- An identity test of something other than null and truth values. -/
  | needsNullOrTruth (operator column : String)
  /-- A kind of join that is not offered. -/
  | joinKind (kind : String)
  /-- A direction of ordering that is not offered. -/
  | orderDirection (direction : String)
  /-- A name that is no error mode. -/
  | errorMode (mode : String)
  /-- A statement that was bound with the wrong number of parameters. -/
  | parameterCount (sql : String) (expected bound : Nat)
  deriving DecidableEq

/-- The statements that need a condition. -/
inductive GuardedAction where
  /-- Changing rows. -/
  | update
  /-- Removing rows. -/
  | delete
  deriving DecidableEq

/-- What needed savepoints. -/
inductive NestingFault where
  /-- Opening a nested transaction. -/
  | begin
  /-- Committing one. -/
  | commit
  /-- Rolling one back. -/
  | rollback
  deriving DecidableEq

/-- What is wrong with a document of settings. -/
inductive DocumentFault where
  /-- A character that no document may hold. -/
  | characters
  /-- A token that cannot be read. -/
  | tokens
  /-- Tokens in an order that gives no structure. -/
  | grammar
  /-- A name of a node that is unknown or given twice, or a second document. -/
  | references
  /-- A node without a value. -/
  | values
  deriving DecidableEq

/-- What is wrong with a configuration. -/
inductive ConfigurationFault where
  /-- A connection without a name. -/
  | blankName
  /-- A name that is not configured, or no name at all, with the names that are configured. -/
  | unknownConnection (name : Option String) (available : List String)
  /-- An address that is none, with the settings it came from if they may be shown. -/
  | invalidDsn (settings : Option PublicSettings)
  /-- A character set that cannot be put into a statement. -/
  | unsafeCharset (charset : String)
  /-- Connection settings with issues. -/
  | invalidConnection (issues : List Issue)
  /-- Settings with issues. -/
  | invalidSettings (issues : List Issue)
  /-- An environment variable that is not set. -/
  | unsetVariable (name : String)
  /-- Settings that are no mapping. -/
  | notMapping
  /-- A file that is not there. -/
  | fileNotFound (path : String)
  /-- No file in any of the places. -/
  | noFile (places : List String)
  /-- A file without content. -/
  | emptyFile (path : String)
  /-- A file that is malformed. -/
  | malformedFile (path : String) (fault : DocumentFault)

/-- Why a value cannot be taken for an integer. -/
inductive IntegerFault where
  /-- A text that is no numeral of that base, as it is shown. -/
  | literal (base : Nat) (shown : String)
  /-- A numeral with more digits than are read. -/
  | tooLong (digits : Nat)
  /-- An integer with more digits than are written. -/
  | unwritable
  /-- A double that is no number. -/
  | nan
  /-- An infinite double. -/
  | infinite
  /-- A decimal that is no number. -/
  | decimalNan
  /-- An infinite decimal. -/
  | decimalInfinite
  /-- A value of a class without an integer. -/
  | wrongClass (className : String)
  deriving DecidableEq

/-- Why no engine can be made for an address. -/
inductive AddressFault where
  /-- A plugin that is not known. -/
  | plugin (name : String)
  /-- A name of more than a backend and a driver. -/
  | nameParts
  /-- A dialect that is not known. -/
  | dialect (name : String)
  /-- A driver that is not installed. -/
  | driver (name : String)
  /-- A database in a file whose address names a user or a host. -/
  | notLocal (url : String)
  /-- A field that is no truth value, as it is shown. -/
  | notTruth (shown : String)
  /-- A number that was given more than once. -/
  | repeatedNumber
  /-- Fields for a file that is not named. -/
  | unnamedFile
  deriving DecidableEq

/-- Everything that can go wrong. -/
inductive Error where
  /-- A name that is not safe. -/
  | unsafeName (name : String)
  /-- A name without characters. -/
  | emptyName
  /-- A part of a dotted name that is not safe. -/
  | unsafeSegment (segment whole : String)
  /-- An operator that is not allowed. -/
  | unsupportedOperator (operator : String) (allowed : List String)
  /-- A join condition that is no plain comparison of columns. -/
  | unsafeJoin (expression : String)
  /-- An argument that cannot be used. -/
  | argument (fault : ArgumentFault)
  /-- A statement that would touch a whole table. -/
  | wholeTable (action : GuardedAction) (table : String)
  /-- A nested transaction without savepoints. -/
  | nesting (fault : NestingFault) (connection driver : String)
  /-- A configuration that cannot be used. -/
  | configuration (fault : ConfigurationFault)
  /-- A connection that could not be opened. -/
  | connectFailed (name : String) (settings : PublicSettings) (cause : Error)
  /-- A character set that could not be chosen. -/
  | charsetFailed (name : String) (settings : PublicSettings) (cause : Error)
  /-- A statement that failed for good, at once or after retries. -/
  | queryFailed (retried : Bool) (failure : Failure) (cause : Error)
  /-- A value that is no integer. -/
  | integer (fault : IntegerFault)
  /-- A text that is no number of double precision, as it is shown. -/
  | notDouble (shown : String)
  /-- A quotient of integers beyond the range of doubles. -/
  | hugeQuotient
  /-- A count of repetitions that does not fit into a machine word. -/
  | hugeCount
  /-- A number without a place in a JSON document, shown if the document is indented. -/
  | notJsonNumber (shown : Option String)
  /-- A key of a class that cannot be a key of a JSON object. -/
  | notJsonKey (className : String)
  /-- Values of classes without an order. -/
  | unorderedKeys (left right : String)
  /-- A moment beside a day, which have no order. -/
  | dayBesideMoment
  /-- Times of day, or moments, of which only one has a distance to universal time. -/
  | mixedZones (moments : Bool)
  /-- A decimal that is no number in an operation that needs one. -/
  | invalidDecimal
  /-- A document that is nested too deep, or has no end because it is a part of itself. -/
  | endless
  /-- A JSON document that is nested too deep, in a list or else in an object. -/
  | tooDeepJson (isList : Bool)
  /-- A value that is nested too deep for a JSON document, which may be an indented one. -/
  | tooDeepValue (indented : Bool)
  /-- A text that is no JSON document. -/
  | notJson (message : String)
  /-- A row without the field. -/
  | noField (name : String)
  /-- A row without the key, as it is shown. -/
  | noKey (shown : String)
  /-- A key of a class that cannot be a key. -/
  | unhashable (className : String)
  /-- A key that is a decimal that must not be computed with. -/
  | signalingKey
  /-- A field that is not named by a text. -/
  | attributeName (className : String)
  /-- An attempt to change a row. -/
  | readOnlyRow
  /-- A value of a class without fields. -/
  | noFields (className : String)
  /-- A value of a class without members. -/
  | noMembers (className : String)
  /-- An error of this library made without its first argument. -/
  | missingArgument (owner name : String)
  /-- An error of this library made with too many arguments. -/
  | extraArguments (owner : String) (most given : Nat)
  /-- A path with a name that no file can have. -/
  | nameTooLong (path : String)
  /-- An address that cannot be parsed. -/
  | unparsableUrl
  /-- A statement text without the bind of that name. -/
  | missingBind (name : String)
  /-- A bind without a value. -/
  | unboundBind (name : String)
  /-- A transaction that must be rolled back first. -/
  | pendingRollback
  /-- A transaction that is already there. -/
  | alreadyBegun
  /-- An address without an engine. -/
  | address (fault : AddressFault)
  /-- An error from outside while a statement was made ready. -/
  | unready (kind message : String)
  /-- An error of a database. -/
  | database (kind message : String)
  /-- An error of a hook or of the caller. -/
  | raised (kind message : String)

instance : Inhabited Error := ⟨.emptyName⟩

/-- The wording of an argument fault. -/
def ArgumentFault.message : ArgumentFault → String
  | .unsupportedParameter c => "Unsupported parameter type: " ++ c
  | .emptyInsert => "insert() requires non-empty data"
  | .emptyRows => "insert_multi() requires non-empty rows"
  | .rowsNotMappings => "insert_multi() rows must be non-empty mappings"
  | .unequalKeys _ _ => "insert_multi() requires rows with identical keys"
  | .emptyUpdate => "update() requires non-empty data"
  | .needsSequence op _ => op ++ " requires a sequence value"
  | .needsNullOrTruth op _ => op ++ " requires None or a bool"
  | .joinKind kind => "Unsupported join type: " ++ kind
  | .orderDirection direction => "Invalid order direction: " ++ direction
  | .errorMode _ => "error_mode must be \"exception\" or \"safe\""
  | .parameterCount _ expected bound =>
    "Statement expects " ++ String.ofList (decimalDigits expected) ++ " parameters, got " ++
      String.ofList (decimalDigits bound)

/-- The wording of a configuration fault. -/
def ConfigurationFault.message : ConfigurationFault → String
  | .blankName => "Connection name cannot be empty"
  | .unknownConnection name _ => "Unknown connection: " ++ (Value.ofText? name).plain
  | .invalidDsn _ => "Invalid DSN: Could not parse SQLAlchemy URL from given URL string"
  | .unsafeCharset charset => "Unsafe charset: " ++ charset
  | .invalidConnection _ => "Invalid connection config"
  | .invalidSettings _ => "Configuration validation failed"
  | .unsetVariable name => "Required environment variable '" ++ name ++ "' is not set"
  | .notMapping => "Configuration must be a mapping"
  | .fileNotFound path => "Configuration file '" ++ path ++ "' not found"
  | .noFile places => "No configuration file found; searched " ++ quotedList places
  | .emptyFile path => "Configuration file '" ++ path ++ "' is empty"
  | .malformedFile path _ => "Invalid YAML in '" ++ path ++ "'"

/-- The wording of an integer fault. -/
def IntegerFault.message : IntegerFault → String
  | .literal base shown =>
    "invalid literal for int() with base " ++ String.ofList (decimalDigits base) ++ ": " ++ shown
  | .tooLong digits =>
    "Exceeds the limit (4300 digits) for integer string conversion: value has " ++
      String.ofList (decimalDigits digits) ++
      " digits; use sys.set_int_max_str_digits() to increase the limit"
  | .unwritable =>
    "Exceeds the limit (4300 digits) for integer string conversion; " ++
      "use sys.set_int_max_str_digits() to increase the limit"
  | .nan => "cannot convert float NaN to integer"
  | .infinite => "cannot convert float infinity to integer"
  | .decimalNan => "cannot convert NaN to integer"
  | .decimalInfinite => "cannot convert Infinity to integer"
  | .wrongClass c =>
    "int() argument must be a string, a bytes-like object or a real number, not '" ++ c ++ "'"

/-- The class of an integer fault. -/
def IntegerFault.kind : IntegerFault → String
  | .infinite => "OverflowError"
  | .decimalInfinite => "OverflowError"
  | .wrongClass _ => "TypeError"
  | _ => "ValueError"

/-- The wording of an address fault. -/
def AddressFault.message : AddressFault → String
  | .plugin name => "Can't load plugin: sqlalchemy.plugins:" ++ name
  | .nameParts => "too many values to unpack (expected 2)"
  | .dialect name => "Can't load plugin: sqlalchemy.dialects:" ++ name
  | .driver name => "No module named '" ++ name ++ "'"
  | .notLocal url =>
    "Invalid SQLite URL: " ++ url ++
      "\nValid SQLite URL forms are:\n sqlite:///:memory: (or, sqlite://)\n " ++
      "sqlite:///relative/path/to/file.db\n sqlite:////absolute/path/to/file.db"
  | .notTruth shown => "String is not true/false: " ++ shown
  | .repeatedNumber => "float() argument must be a string or a real number, not 'tuple'"
  | .unnamedFile => "unsupported operand type(s) for +=: 'NoneType' and 'str'"

/-- The class of an address fault. -/
def AddressFault.kind : AddressFault → String
  | .plugin _ => "NoSuchModuleError"
  | .nameParts => "ValueError"
  | .dialect _ => "NoSuchModuleError"
  | .driver _ => "ModuleNotFoundError"
  | .notLocal _ => "ArgumentError"
  | .notTruth _ => "ValueError"
  | .repeatedNumber => "TypeError"
  | .unnamedFile => "TypeError"

namespace Error

/-- The class of an error. -/
def kind : Error → String
  | .unsafeName _ => "IdentifierError"
  | .emptyName => "IdentifierError"
  | .unsafeSegment _ _ => "IdentifierError"
  | .unsupportedOperator _ _ => "UnsupportedOperatorError"
  | .unsafeJoin _ => "UnsafeJoinExpressionError"
  | .argument _ => "ArgumentError"
  | .wholeTable _ _ => "PolicyError"
  | .nesting _ _ _ => "TransactionError"
  | .configuration _ => "ConfigurationError"
  | .connectFailed _ _ _ => "ExecutionError"
  | .charsetFailed _ _ _ => "ExecutionError"
  | .queryFailed _ _ _ => "ExecutionError"
  | .integer fault => fault.kind
  | .notDouble _ => "ValueError"
  | .hugeQuotient => "OverflowError"
  | .hugeCount => "OverflowError"
  | .notJsonNumber _ => "ValueError"
  | .notJsonKey _ => "TypeError"
  | .unorderedKeys _ _ => "TypeError"
  | .dayBesideMoment => "TypeError"
  | .mixedZones _ => "TypeError"
  | .invalidDecimal => "InvalidOperation"
  | .endless => "RecursionError"
  | .tooDeepJson _ => "RecursionError"
  | .tooDeepValue _ => "RecursionError"
  | .notJson _ => "JSONDecodeError"
  | .noField _ => "AttributeError"
  | .noKey _ => "KeyError"
  | .unhashable _ => "TypeError"
  | .signalingKey => "TypeError"
  | .attributeName _ => "TypeError"
  | .readOnlyRow => "AttributeError"
  | .noFields _ => "AttributeError"
  | .noMembers _ => "TypeError"
  | .missingArgument _ _ => "TypeError"
  | .extraArguments _ _ _ => "TypeError"
  | .nameTooLong _ => "OSError"
  | .unparsableUrl => "ArgumentError"
  | .missingBind _ => "ArgumentError"
  | .unboundBind _ => "StatementError"
  | .pendingRollback => "PendingRollbackError"
  | .alreadyBegun => "InvalidRequestError"
  | .address fault => fault.kind
  | .unready _ _ => "StatementError"
  | .database kind _ => kind
  | .raised kind _ => kind

/-- The wording of an error. -/
def message : Error → String
  | .unsafeName name => "Unsafe identifier: " ++ name
  | .emptyName => "Empty identifier"
  | .unsafeSegment segment _ => "Unsafe identifier segment: " ++ segment
  | .unsupportedOperator operator _ => "Unsupported operator: " ++ operator
  | .unsafeJoin _ => "Unsafe/unsupported join expression"
  | .argument fault => fault.message
  | .wholeTable .update _ => "update() requires at least one where() condition"
  | .wholeTable .delete _ => "delete() requires at least one where() condition"
  | .nesting .begin _ _ => "Nested transactions require SAVEPOINT support"
  | .nesting .commit _ _ => "SAVEPOINT not supported for nested commit"
  | .nesting .rollback _ _ => "SAVEPOINT not supported for nested rollback"
  | .configuration fault => fault.message
  | .connectFailed name _ cause => "Failed to connect to '" ++ name ++ "': " ++ cause.message
  | .charsetFailed name _ cause =>
    "Failed to set charset on '" ++ name ++ "': " ++ cause.message
  | .queryFailed retried _ _ =>
    if retried then "Database query failed after retries" else "Database query failed"
  | .integer fault => fault.message
  | .notDouble shown => "could not convert string to float: " ++ shown
  | .hugeQuotient => "integer division result too large for a float"
  | .hugeCount => "cannot fit 'int' into an index-sized integer"
  | .notJsonNumber shown =>
    "Out of range float values are not JSON compliant" ++
      (match shown with
        | some text => ": " ++ text
        | none => "")
  | .notJsonKey c => "keys must be str, int, float, bool or None, not " ++ c
  | .unorderedKeys left right =>
    "'<' not supported between instances of '" ++ left ++ "' and '" ++ right ++ "'"
  | .dayBesideMoment => "can't compare datetime.datetime to datetime.date"
  | .mixedZones moments =>
    "can't compare offset-naive and offset-aware " ++ (if moments then "datetimes" else "times")
  | .invalidDecimal => "[<class 'decimal.InvalidOperation'>]"
  | .endless => "maximum recursion depth exceeded"
  | .tooDeepJson isList =>
    "maximum recursion depth exceeded while decoding a JSON " ++
      (if isList then "array" else "object") ++ " from a unicode string"
  | .tooDeepValue indented =>
    "maximum recursion depth exceeded while " ++
      (if indented then "calling a Python object" else "encoding a JSON object")
  | .notJson text => text
  | .noField name => name
  | .noKey shown => shown
  | .unhashable c => "unhashable type: '" ++ c ++ "'"
  | .signalingKey => "Cannot hash a signaling NaN value"
  | .attributeName c => "attribute name must be string, not '" ++ c ++ "'"
  | .readOnlyRow => "Record is read-only"
  | .noFields c => "'" ++ c ++ "' object has no attribute 'values'"
  | .noMembers c => "'" ++ c ++ "' object is not iterable"
  | .missingArgument owner name =>
    owner ++ ".__init__() missing 1 required positional argument: '" ++ name ++ "'"
  | .extraArguments owner most given =>
    owner ++ ".__init__() takes " ++ (if most = 1 then "" else "from 2 to ") ++
      String.ofList (decimalDigits (most + 1)) ++ " positional arguments but " ++
      String.ofList (decimalDigits (given + 1)) ++ " were given"
  | .nameTooLong path => "[Errno 36] File name too long: " ++ quoted path
  | .unparsableUrl => "Could not parse SQLAlchemy URL from given URL string"
  | .missingBind name =>
    "This text() construct doesn't define a bound parameter named " ++ quoted name
  | .unboundBind name =>
    "(sqlalchemy.exc.InvalidRequestError) A value is required for bind parameter " ++ quoted name
  | .pendingRollback =>
    "Can't reconnect until invalid transaction is rolled back.  Please rollback() fully before " ++
      "proceeding (Background on this error at: https://sqlalche.me/e/21/8s2b)"
  | .alreadyBegun =>
    "This connection has already initialized a SQLAlchemy Transaction() object via begin() or " ++
      "autobegin; can't call begin() here unless rollback() or commit() is called first."
  | .address fault => fault.message
  | .unready kind text => "(builtins." ++ kind ++ ") " ++ text
  | .database _ text => text
  | .raised _ text => text

/-- The class of the error that this one was raised from. -/
def causeKind? : Error → Option String
  | .configuration (.invalidDsn _) => some "ArgumentError"
  | .configuration (.invalidConnection _) => some "ValidationError"
  | .configuration (.invalidSettings _) => some "ValidationError"
  | .configuration (.malformedFile _ .characters) => some "ReaderError"
  | .configuration (.malformedFile _ .tokens) => some "ScannerError"
  | .configuration (.malformedFile _ .grammar) => some "ParserError"
  | .configuration (.malformedFile _ .references) => some "ComposerError"
  | .configuration (.malformedFile _ .values) => some "ConstructorError"
  | .connectFailed _ _ cause => some cause.kind
  | .charsetFailed _ _ cause => some cause.kind
  | .queryFailed _ _ cause => some cause.kind
  | _ => none

/-- The issues that were found in a settings mapping. -/
def issues? : Error → Option (List Issue)
  | .configuration (.invalidConnection issues) => some issues
  | .configuration (.invalidSettings issues) => some issues
  | _ => none

end Error

end BoundSql
