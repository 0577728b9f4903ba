import BoundSql.Value.Basic

/-!
# Issues of a settings mapping

What can be wrong with one entry of a settings mapping, with a code for programs, a sentence for
people and the path of keys that leads to the entry.
-/

namespace BoundSql

/-- What is wrong with an entry. -/
inductive Fault where
  /-- A required entry is absent. -/
  | missing
  /-- The entry should be a text. -/
  | notText
  /-- A byte string should be a text. -/
  | undecodableText
  /-- The entry should be an integer. -/
  | notInteger
  /-- A text should be an integer numeral. -/
  | unreadableInteger
  /-- A number should have no fractional part. -/
  | fractionalInteger
  /-- A number should be finite. -/
  | infiniteInteger
  /-- A number is too large to be taken for an integer. -/
  | hugeInteger
  /-- The entry should be a truth value. -/
  | notTruth
  /-- The entry cannot be taken for a truth value. -/
  | unreadableTruth
  /-- The entry should be a mapping. -/
  | notMapping
  /-- The entry should be the mapping of one connection. -/
  | notConnection
  /-- A number should not be below zero. -/
  | belowZero
  /-- The entry should be the name of an error mode. -/
  | notErrorMode
  /-- A rule over several characters or entries is broken. -/
  | rejected (reason : String)
  deriving DecidableEq

/-- The code of a fault. -/
def Fault.code : Fault → String
  | .missing => "missing"
  | .notText => "string_type"
  | .undecodableText => "string_unicode"
  | .notInteger => "int_type"
  | .unreadableInteger => "int_parsing"
  | .fractionalInteger => "int_from_float"
  | .infiniteInteger => "finite_number"
  | .hugeInteger => "int_parsing_size"
  | .notTruth => "bool_type"
  | .unreadableTruth => "bool_parsing"
  | .notMapping => "dict_type"
  | .notConnection => "model_type"
  | .belowZero => "greater_than_equal"
  | .notErrorMode => "string_pattern_mismatch"
  | .rejected _ => "value_error"

/-- The sentence of a fault. -/
def Fault.message : Fault → String
  | .missing => "Field required"
  | .notText => "Input should be a valid string"
  | .undecodableText =>
    "Input should be a valid string, unable to parse raw data as a unicode string"
  | .notInteger => "Input should be a valid integer"
  | .unreadableInteger => "Input should be a valid integer, unable to parse string as an integer"
  | .fractionalInteger =>
    "Input should be a valid integer, got a number with a fractional part"
  | .infiniteInteger => "Input should be a finite number"
  | .hugeInteger => "Unable to parse input string as an integer, exceeded maximum size"
  | .notTruth => "Input should be a valid boolean"
  | .unreadableTruth => "Input should be a valid boolean, unable to interpret input"
  | .notMapping => "Input should be a valid dictionary"
  | .notConnection => "Input should be a valid dictionary or instance of ConnectionConfig"
  | .belowZero => "Input should be greater than or equal to 0"
  | .notErrorMode => "String should match pattern '^(exception|safe)$'"
  | .rejected reason => "Value error, " ++ reason

/-- A fault at a place. -/
structure Issue where
  /-- The keys that lead to the entry. -/
  path : List Value
  /-- What is wrong there. -/
  fault : Fault

/-- The same issue seen from one level further out. -/
def Issue.under (key : Value) (issue : Issue) : Issue := ⟨key :: issue.path, issue.fault⟩

end BoundSql
