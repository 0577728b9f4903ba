import BoundSql.Value.Basic
import BoundSql.Text.Quoted

/-!
# Texts of values

`Value.plain` is the text of a value on its own; a text is its own text. `Value.shown` is the
text inside a list, a mapping or a diagnostic, where texts are quoted and dates name their class.
-/

namespace BoundSql

open Text

/-- Texts with commas in between. -/
def commaList (items : List String) : String := String.intercalate ", " items

/-- Hexadecimal digits of a unique identifier in groups of 8, 4, 4, 4 and 12. -/
def uuidText (bits : Nat) : String :=
  let d := hexFixed 32 bits
  String.ofList (d.take 8 ++ '-' :: (d.drop 8).take 4 ++ '-' :: (d.drop 12).take 4 ++
    '-' :: (d.drop 16).take 4 ++ '-' :: d.drop 20)

/-- A length of time as a constructor call; days are below zero for negative ones. -/
def shownInterval (micros : Int) : String :=
  let days := Int.fdiv micros 86400000000
  let rest := (micros - days * 86400000000).toNat
  let parts :=
    (if days = 0 then [] else ["days=" ++ String.ofList (integerText days)]) ++
    (if rest / 1000000 = 0 then []
      else ["seconds=" ++ String.ofList (decimalDigits (rest / 1000000))]) ++
    (if rest % 1000000 = 0 then []
      else ["microseconds=" ++ String.ofList (decimalDigits (rest % 1000000))])
  "datetime.timedelta(" ++ (if parts.isEmpty then "0" else commaList parts) ++ ")"

/-- A distance to universal time as a constructor call. -/
def shownOffset (micros : Int) : String :=
  if micros = 0 then "datetime.timezone.utc"
  else "datetime.timezone(" ++ shownInterval micros ++ ")"

/-- The arguments of a time of day; seconds and microseconds only where needed. -/
def clockArguments (t : ClockTime) : List String :=
  let n := fun k : Nat => String.ofList (decimalDigits k)
  [n t.hour, n t.minute] ++
    (if t.micro ≠ 0 then [n t.second, n t.micro] else if t.second ≠ 0 then [n t.second] else [])

/-- The argument that gives the distance to universal time. -/
def zoneArgument (t : ClockTime) : List String :=
  match t.offset with
  | some micros => ["tzinfo=" ++ shownOffset micros]
  | none => []

/-- The arguments of a day. -/
def dateArguments (d : CalendarDate) : List String :=
  [d.year, d.month, d.day].map fun k => String.ofList (decimalDigits k)

namespace Value

/-- The text of a value without members inside another one. -/
def shownScalar : Value → String
  | .null => "None"
  | .bool b => if b then "True" else "False"
  | .int n => String.ofList (integerText n)
  | .float x => x.text
  | .text s => quoted s
  | .decimal d => "Decimal('" ++ d.text ++ "')"
  | .date d => "datetime.date(" ++ commaList (dateArguments d) ++ ")"
  | .time t => "datetime.time(" ++ commaList (clockArguments t ++ zoneArgument t) ++ ")"
  | .datetime d t =>
    "datetime.datetime(" ++
      commaList (dateArguments d ++ clockArguments t ++ zoneArgument t) ++ ")"
  | .uuid bits => "UUID('" ++ uuidText bits ++ "')"
  | .bytes content => quotedBytes content
  | _ => "opaque"

mutual
/-- The text of a value inside another one. -/
def shown : Value → String
  | .list xs => "[" ++ commaList (shownItems xs) ++ "]"
  | .tuple [x] => "(" ++ shown x ++ ",)"
  | .tuple xs => "(" ++ commaList (shownItems xs) ++ ")"
  | .set [] => "set()"
  | .set xs => "\x7b" ++ commaList (shownItems xs) ++ "\x7d"
  | .mapping kvs => "\x7b" ++ commaList (shownFields kvs) ++ "\x7d"
  | .record kvs => "Record(\x7b" ++ commaList (shownFields kvs) ++ "\x7d)"
  | v => shownScalar v
/-- The texts of members. -/
def shownItems : List Value → List String
  | [] => []
  | x :: xs => shown x :: shownItems xs
/-- The texts of fields. -/
def shownFields : List (Value × Value) → List String
  | [] => []
  | (k, x) :: rest => (shown k ++ ": " ++ shown x) :: shownFields rest
end

/-- The text of a moment, with a `T` between day and time. -/
def isoText (day : CalendarDate) (clock : ClockTime) : String := day.text ++ "T" ++ clock.text

/-- The text of a value on its own. -/
def plain : Value → String
  | .text s => s
  | .decimal d => d.text
  | .date d => d.text
  | .time t => t.text
  | .datetime d t => d.text ++ " " ++ t.text
  | .uuid bits => uuidText bits
  | v => v.shown

end Value

end BoundSql
