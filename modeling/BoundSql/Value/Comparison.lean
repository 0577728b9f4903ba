import BoundSql.Error
import BoundSql.Value.Equality

/-!
# Comparisons that can fail

`Value.compareEqual` is equality member by member up to the first difference, and `Value.less` the
order of values of one kind. Both fail where a decimal that is no number is computed with: a
signaling one in any comparison with a number, every one in an order. Days and moments, and times
with and without a distance to universal time, have no order.
-/

namespace BoundSql.Value

/-- A decimal that must not be computed with. -/
def isSignaling : Value → Bool
  | .decimal (.nan _ signaling) => signaling
  | _ => false

/-- A decimal. -/
def isDecimal : Value → Bool
  | .decimal _ => true
  | _ => false

/-- A number that is none. -/
def isNotNumber (v : Value) : Bool :=
  match v.magnitude? with
  | some .nan => true
  | _ => false

/-- Equality of values without members. -/
def compareScalars (a b : Value) : Except Error Bool :=
  if (a.isSignaling && b.magnitude?.isSome) || (b.isSignaling && a.magnitude?.isSome) then
    .error .invalidDecimal
  else .ok (a.equalScalar b)

/-- The value of a key, the key being looked up by equality. -/
def lookUp (key : Value) (fields : Fields) : Option Value :=
  (fields.find? fun f => f.1.equal key).map Prod.snd

mutual
/-- Equality of values; no member behind the first difference is looked at. -/
def compareEqual : Value → Value → Except Error Bool
  | .list a, .list b => if a.length ≠ b.length then .ok false else compareLists a b
  | .tuple a, .tuple b => compareLists a b
  | .mapping a, .mapping b => if a.length ≠ b.length then .ok false else compareFields a b
  | .mapping a, .record b => if a.length ≠ b.length then .ok false else compareFields a b
  | .record a, .mapping b => if a.length ≠ b.length then .ok false else compareFields a b
  | .record a, .record b => if a.length ≠ b.length then .ok false else compareFields a b
  | .set a, b => .ok ((Value.set a).equal b)
  | a, b => compareScalars a b
/-- Equality of the members of two lists. -/
def compareLists : List Value → List Value → Except Error Bool
  | [], [] => .ok true
  | a :: as, b :: bs =>
    match compareEqual a b with
    | .ok true => compareLists as bs
    | .ok false => .ok false
    | .error e => .error e
  | _, _ => .ok false
/-- Every field of the first list has an equal one in the second. -/
def compareFields : List (Value × Value) → List (Value × Value) → Except Error Bool
  | [], _ => .ok true
  | (k, a) :: as, bs =>
    match lookUp k bs with
    | none => .ok false
    | some b =>
      match compareEqual a b with
      | .ok true => compareFields as bs
      | .ok false => .ok false
      | .error e => .error e
end

/-- The order of two numbers. -/
def lessNumber (a b : Value) (x y : Magnitude) : Except Error Bool :=
  if (a.isDecimal || b.isDecimal) && (a.isNotNumber || b.isNotNumber) then .error .invalidDecimal
  else .ok (x.less y)

/-- The order of times of day on days that are a distance apart; `moments` if the days count. -/
def lessClock (moments : Bool) (days : Int) (a b : ClockTime) : Except Error Bool :=
  match a.offset, b.offset with
  | none, none => .ok (days * 86400000000 + a.sinceMidnight < b.sinceMidnight)
  | some x, some y => .ok (days * 86400000000 + a.sinceMidnight - x < b.sinceMidnight - y)
  | _, _ => .error (.mixedZones moments)

/-- The order of values without members. -/
def lessScalar (a b : Value) : Except Error Bool :=
  match a, b with
  | .text s, .text t => .ok (decide (s < t))
  | .date d, .date e => .ok (d.dayNumber < e.dayNumber)
  | .time s, .time t => lessClock false 0 s t
  | .datetime d s, .datetime e t => lessClock true ((d.dayNumber : Int) - e.dayNumber) s t
  | .date _, .datetime _ _ => .error .dayBesideMoment
  | .datetime _ _, .date _ => .error .dayBesideMoment
  | .uuid m, .uuid n => .ok (m < n)
  | .bytes s, .bytes t => .ok (decide (s.map UInt8.toNat < t.map UInt8.toNat))
  | a, b =>
    match a.magnitude?, b.magnitude? with
    | some x, some y => lessNumber a b x y
    | _, _ => .error (.unorderedKeys a.qualifiedClassName b.qualifiedClassName)

mutual
/-- The order of two values: of tuples that of the first members that differ, a beginning coming
before the whole. -/
def less : Value → Value → Except Error Bool
  | .tuple a, .tuple b => lessLists a b
  | a, b => lessScalar a b
/-- The order of the members of two tuples. -/
def lessLists : List Value → List Value → Except Error Bool
  | _, [] => .ok false
  | [], _ :: _ => .ok true
  | a :: as, b :: bs =>
    match compareEqual a b with
    | .ok true => lessLists as bs
    | .ok false => less a b
    | .error e => .error e
end

end BoundSql.Value
