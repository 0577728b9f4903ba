import BoundSql.Error

/-!
# Bound values

Every parameter is bound as one of four kinds: null, a truth value, an integer or a text. Numbers
with a fraction, dates and unique identifiers are bound as texts; containers and byte strings have
no binding.
-/

namespace BoundSql

/-- A parameter as a driver takes it. -/
inductive BoundValue where
  /-- No value. -/
  | null
  /-- A truth value. -/
  | bool (truth : Bool)
  /-- An integer. -/
  | int (n : Int)
  /-- A text. -/
  | text (s : String)
  deriving DecidableEq

namespace BoundValue

/-- The name of the kind. -/
def kind : BoundValue → String
  | .null => "null"
  | .bool _ => "bool"
  | .int _ => "int"
  | .text _ => "text"

/-- The value itself. -/
def value : BoundValue → Value
  | .null => .null
  | .bool b => .bool b
  | .int n => .int n
  | .text s => .text s

/-- Binds one parameter. -/
def ofValue : Value → Except Error BoundValue
  | .null => .ok .null
  | .bool b => .ok (.bool b)
  | .int n => .ok (.int n)
  | .text s => .ok (.text s)
  | .float x => .ok (.text x.text)
  | .decimal d => .ok (.text d.text)
  | .uuid bits => .ok (.text (uuidText bits))
  | .date d => .ok (.text d.text)
  | .time t => .ok (.text t.text)
  | .datetime d t => .ok (.text (Value.isoText d t))
  | v => .error (.argument (.unsupportedParameter v.className))

/-- Binds parameters in order; the first one without a binding is reported. -/
def ofValues : List Value → Except Error (List BoundValue)
  | [] => .ok []
  | v :: rest => do
    let b ← ofValue v
    let more ← ofValues rest
    return b :: more

/-- The form in which a driver without truth values takes a bound value: one and zero. -/
def withoutTruth : BoundValue → BoundValue
  | .bool b => .int (if b then 1 else 0)
  | b => b

end BoundValue

end BoundSql
