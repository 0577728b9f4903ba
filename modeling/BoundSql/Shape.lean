import BoundSql.Json.Read
import BoundSql.Json.Write
import BoundSql.Value.Comparison

/-!
# Shapes of results

Rows come back as plain mappings, as read-only records, or as one JSON document. The first row and
the first value can be taken from any shape; a document is read again for that.
-/

namespace BoundSql

open Text

/-- How rows are handed to a caller. -/
inductive FetchMode where
  /-- As mappings. -/
  | array
  /-- As records. -/
  | object
  /-- As one document. -/
  | json
  deriving DecidableEq

/-- The name of a mode. -/
def FetchMode.text : FetchMode → String
  | .array => "array"
  | .object => "object"
  | .json => "json"

/-- The mode of a name. -/
def FetchMode.ofText? (s : String) : Option FetchMode :=
  [FetchMode.array, .object, .json].find? fun mode => mode.text == s

/-- The fields of one row in order. -/
abbrev Row := Fields

/-- A shaped result. -/
inductive Shaped where
  /-- One value for each row. -/
  | rows (items : List Value)
  /-- A document. -/
  | document (text : String)

/-- A shaped result as a value. -/
def Shaped.value : Shaped → Value
  | .rows items => .list items
  | .document text => .text text

/-- Gives rows their shape. -/
def shapeRows (rows : List Row) (mode : FetchMode) (style : JsonStyle) : Except Error Shaped :=
  match mode with
  | .array => .ok (.rows (rows.map .mapping))
  | .object => .ok (.rows (rows.map .record))
  | .json => (Json.write style (.list (rows.map .mapping))).map .document

/-- The first row of a shaped result, absent if there is none. -/
def firstRow : Shaped → Except Error Value
  | .rows items => .ok (items.head?.getD .null)
  | .document text =>
    if text = "" then .ok .null
    else do
      match ← Json.read text with
      | .list (v :: _) => return v
      | _ => return .null

/-- The first value of a row, absent if there is no row or no field. -/
def firstValue (row : Value) : Except Error Value :=
  if !row.truthy then .ok .null
  else
    match row.fields? with
    | some fields => .ok (fields.values.head?.getD .null)
    | none => .error (.noFields row.className)

mutual
/-- Refuses a value that cannot be a key: what can change, alone or in a tuple. -/
def checkKey : Value → Except Error Unit
  | .tuple items => checkKeys items
  | .decimal (.nan _ true) => .error .signalingKey
  | .list _ => .error (.unhashable "list")
  | .set _ => .error (.unhashable "set")
  | .mapping _ => .error (.unhashable "dict")
  | .record _ => .error (.unhashable "Record")
  | _ => .ok ()
/-- Refuses values of which one cannot be a key. -/
def checkKeys : List Value → Except Error Unit
  | [] => .ok ()
  | v :: rest => do
    checkKey v
    checkKeys rest
end

/-- A read-only row whose fields can be read by name. -/
structure Record where
  /-- Its fields in order. -/
  fields : Row

namespace Record

/-- The text that describes records. -/
def description : String :=
  "An ordered, read-only row with attribute access.\n\n    ``record.name`` and " ++
    "``record[\"name\"]`` are equivalent.\n    "

/-- The operations of every record. -/
def operations : List String :=
  ["__class__", "__class_getitem__", "__contains__", "__delattr__", "__dir__", "__eq__",
    "__format__", "__ge__", "__getattr__", "__getattribute__", "__getitem__", "__getstate__",
    "__gt__", "__init__", "__init_subclass__", "__iter__", "__le__", "__len__", "__lt__",
    "__ne__", "__new__", "__reduce__", "__reduce_ex__", "__repr__", "__setattr__", "__sizeof__",
    "__str__", "__subclasshook__", "_abc_impl", "get", "items", "keys", "to_dict", "values"]

/-- What every record tells about its class. -/
def classFacts : List (String × Value) :=
  [("__abstractmethods__", .set []), ("__doc__", .text description), ("__hash__", .null),
    ("__module__", .text "querycore.query.results"), ("__orig_bases__", .tuple [.unknown]),
    ("__parameters__", .tuple []), ("__reversed__", .null),
    ("__slots__", .tuple [.text "_fields"]), ("_is_protocol", .bool false)]

/-- An attribute that every record has; no field of the same name can be read as one. -/
def ownAttribute? (r : Record) (name : String) : Option Value :=
  if name = "_fields" then some (.mapping r.fields)
  else if operations.contains name then some .unknown
  else classFacts.lookup name

/-- The value of a name, read as an attribute. -/
def field (r : Record) (name : String) : Except Error Value :=
  match r.ownAttribute? name, r.fields.get? (.text name) with
  | some v, _ => .ok v
  | none, some v => .ok v
  | none, none => .error (.noField name)

/-- What is read from a name that a caller gave. -/
def read (r : Record) : Value → Except Error Value
  | .text name => r.field name
  | name => .error (.attributeName name.qualifiedClassName)

/-- The value of a key. -/
def item (r : Record) (key : Value) : Except Error Value := do
  checkKey key
  match r.fields.get? key with
  | some v => return v
  | none => throw (.noKey key.shown)

/-- The value of a key, or the given one. -/
def get (r : Record) (key default : Value) : Except Error Value := do
  checkKey key
  return (r.fields.get? key).getD default

/-- The key is there. -/
def has (r : Record) (key : Value) : Except Error Bool := do
  checkKey key
  return (r.fields.get? key).isSome

/-- Setting a field is refused. -/
def set (_ : Record) : Value → Except Error Value
  | .text _ => .error .readOnlyRow
  | name => .error (.attributeName name.qualifiedClassName)

/-- The record as a value. -/
def value (r : Record) : Value := .record r.fields

/-- The record is equal to another value: to a record or mapping with the same fields. -/
def equals (r : Record) (other : Value) : Except Error Bool := r.value.compareEqual other

end Record

end BoundSql
