import BoundSql.Json.Write

/-!
# Error reports

An error with everything its class carries: the details, the class of its cause, the issues of a
settings mapping and the attributes that can be read from it. Only errors of this library's own
classes have details; `ErrorReport.construct` builds the report of such a class from the arguments
of its constructor.
-/

namespace BoundSql

/-- One detail of an error. -/
inductive Detail where
  /-- A value. -/
  | value (v : Value)
  /-- Notes on parameters. -/
  | params (notes : List ParamNote)
  /-- Connection settings. -/
  | settings (view : PublicSettings)
  /-- A length of time, which differs from run to run. -/
  | duration

/-- Named details in order. -/
abbrev Details := List (String × Detail)

/-- A text as a detail. -/
def Detail.text (s : String) : Detail := .value (.text s)

/-- An error with everything its class carries. -/
structure ErrorReport where
  /-- The class. -/
  kind : String
  /-- The wording. -/
  message : String
  /-- Details, for classes that have them. -/
  details : Option Details
  /-- The class of the error it was raised from. -/
  cause : Option String
  /-- Issues of a settings mapping. -/
  issues : Option (List Issue)
  /-- Values that can be read from the error. -/
  attributes : List (String × Value)

/-- The context of a failure as details. -/
def Failure.details (f : Failure) : Details :=
  [("connection", .text f.call.connection), ("sql", .text f.call.sql),
    ("params", .params f.call.params), ("duration_ms", .duration), ("error", .text f.error),
    ("exception", .text f.exception)]

/-- The details of an argument fault. -/
def ArgumentFault.details : ArgumentFault → Details
  | .unsupportedParameter c => [("type", .text c)]
  | .unequalKeys row expected =>
    [("row", .value (.int row)), ("expected_keys", .value (.list expected))]
  | .needsSequence _ column => [("column", .text column)]
  | .needsNullOrTruth _ column => [("column", .text column)]
  | .joinKind kind => [("type", .text kind)]
  | .orderDirection direction => [("direction", .text direction)]
  | .errorMode mode => [("mode", .text mode)]
  | .parameterCount sql expected bound =>
    [("sql", .text sql), ("expected", .value (.int expected)), ("bound", .value (.int bound))]
  | _ => []

/-- The details of a configuration fault. -/
def ConfigurationFault.details : ConfigurationFault → Details
  | .unknownConnection name available =>
    [("connection", .value (.ofText? name)), ("available", .value (.list (available.map .text)))]
  | .invalidDsn (some settings) => [("config", .settings settings)]
  | .unsafeCharset charset => [("charset", .text charset)]
  | .unsetVariable name => [("variable", .text name)]
  | _ => []

/-- The details of a connection that could not be set up. -/
def setupDetails (name : String) (settings : PublicSettings) (cause : Error) : Details :=
  [("connection", .text name), ("config", .settings settings), ("error", .text cause.message),
    ("exception", .text cause.kind)]

namespace Error

/-- The details of an error; none for errors from outside. -/
def details? : Error → Option Details
  | .unsafeName _ => some []
  | .emptyName => some []
  | .unsafeSegment _ _ => some []
  | .unsupportedOperator operator allowed =>
    some [("operator", .text operator), ("allowed", .value (.list (allowed.map .text)))]
  | .unsafeJoin expression => some [("expression", .text expression)]
  | .argument fault => some fault.details
  | .wholeTable _ table => some [("table", .text table)]
  | .nesting _ connection driver =>
    some [("connection", .text connection), ("driver", .text driver)]
  | .configuration fault => some fault.details
  | .connectFailed name settings cause => some (setupDetails name settings cause)
  | .charsetFailed name settings cause => some (setupDetails name settings cause)
  | .queryFailed _ failure _ => some failure.details
  | _ => none

/-- The values that can be read from an error. -/
def attributes : Error → List (String × Value)
  | .unsafeName name => [("identifier", .text name)]
  | .emptyName => [("identifier", .text "")]
  | .unsafeSegment _ whole => [("identifier", .text whole)]
  | .unsupportedOperator operator _ => [("operator", .text operator)]
  | .unsafeJoin expression => [("expression", .text expression)]
  | .nesting _ connection driver =>
    [("connection", .text connection), ("driver", .text driver)]
  | .connectFailed name _ _ => [("connection", .text name), ("sql", .null)]
  | .charsetFailed name _ _ => [("connection", .text name), ("sql", .null)]
  | .queryFailed _ failure _ =>
    [("connection", .text failure.call.connection), ("sql", .text failure.call.sql)]
  | _ => []

/-- Everything that an error carries. -/
def report (e : Error) : ErrorReport :=
  ⟨e.kind, e.message, e.details?, e.causeKind?, e.issues?, e.attributes⟩

end Error

namespace ErrorReport

/-- The name of a detail: a key as JSON writes it, else its text. -/
def detailName (key : Value) : String :=
  match Json.keyText JsonStyle.rows key with
  | .ok name => name
  | .error _ => key.plain

/-- The fields of a details argument; anything that counts as false gives none. -/
def givenDetails (v : Value) : Details :=
  match v.fields? with
  | some fields =>
    fields.map fun f =>
      let name := detailName f.1
      (name, if name = "duration_ms" then Detail.duration else Detail.value f.2)
  | none => []

/-- The value of a detail, absent if there is no such detail. -/
def detailValue (details : Details) (name : String) : Value :=
  match details.lookup name with
  | some (.value v) => v
  | _ => .null

/-- A class with a message and details. -/
def plainClass (kind : String) (message : Value) (details : Details)
    (attributes : List (String × Value)) : ErrorReport :=
  ⟨kind, message.plain, some details, none, none, attributes⟩

/-- The members of an argument; anything that counts as false has none. -/
def members (v : Value) : Except Error (List Value) :=
  if !v.truthy then .ok []
  else
    match v.members? with
    | some items => .ok items
    | none => .error (.noMembers v.qualifiedClassName)

/-- How an error of a class is made. -/
structure Signature where
  /-- The class whose constructor is used. -/
  owner : String
  /-- The name of the first argument, which must be given. -/
  first : String
  /-- The greatest count of arguments. -/
  most : Nat

/-- How an error of a class is made; classes without a constructor of their own share one. -/
def signature (kind : String) : Signature :=
  match kind with
  | "IdentifierError" => ⟨kind, "message", 3⟩
  | "UnsupportedOperatorError" => ⟨kind, "operator", 2⟩
  | "UnsafeJoinExpressionError" => ⟨kind, "expression", 1⟩
  | "TransactionError" => ⟨kind, "message", 3⟩
  | _ => ⟨"QueryCoreError", "message", 2⟩

/-- The report of an error of one of the library's classes, from the right count of constructor
arguments. -/
def ofArguments (kind : String) (args : List Value) : Except Error ErrorReport :=
  let arg := fun i : Nat => args.getD i .null
  match kind with
  | "IdentifierError" =>
    .ok (plainClass kind (arg 0) (givenDetails (arg 2)) [("identifier", arg 1)])
  | "UnsupportedOperatorError" => do
    let allowed ← members (arg 1)
    return plainClass kind (.text ("Unsupported operator: " ++ (arg 0).plain))
      [("operator", .value (arg 0)), ("allowed", .value (.list allowed))]
      [("operator", arg 0)]
  | "UnsafeJoinExpressionError" =>
    .ok (plainClass kind (.text "Unsafe/unsupported join expression")
      [("expression", .value (arg 0))] [("expression", arg 0)])
  | "TransactionError" =>
    .ok (plainClass kind (arg 0) [("connection", .value (arg 1)), ("driver", .value (arg 2))]
      [("connection", arg 1), ("driver", arg 2)])
  | "ExecutionError" =>
    let details := givenDetails (arg 1)
    .ok (plainClass kind (arg 0) details
      [("connection", detailValue details "connection"), ("sql", detailValue details "sql")])
  | _ => .ok (plainClass kind (arg 0) (givenDetails (arg 1)) [])

/-- The report of an error of one of the library's classes, from constructor arguments. -/
def construct (kind : String) (args : List Value) : Except Error ErrorReport :=
  let s := signature kind
  if args.isEmpty then .error (.missingArgument s.owner s.first)
  else if s.most < args.length then .error (.extraArguments s.owner s.most args.length)
  else ofArguments kind args

end ErrorReport

end BoundSql
