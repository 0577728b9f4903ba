import BoundSql.Value.Basic

/-!
# Equality of values

`Value.equal` compares what values mean: numbers of all kinds by their exact value, truth values
as zero and one, lists, tuples and sets member by member, mappings by their keys whatever the
order, and times with a known distance to universal time as moments. No number equals nothing,
not even itself.
-/

namespace BoundSql

/-- The exact value of a number. -/
inductive Magnitude where
  /-- Not a number. -/
  | nan
  /-- An infinity. -/
  | infinite (negative : Bool)
  /-- A fraction with a positive denominator. -/
  | fraction (num : Int) (den : Nat)

namespace Magnitude

/-- A signed quotient of naturals. -/
def ofRatio (r : Bool × Nat × Nat) : Magnitude :=
  .fraction (if r.1 then -(r.2.1 : Int) else r.2.1) r.2.2

/-- Exact equality. -/
def equal : Magnitude → Magnitude → Bool
  | .infinite a, .infinite b => a == b
  | .fraction a p, .fraction b q => a * q == b * p
  | _, _ => false

/-- Exact order. -/
def less : Magnitude → Magnitude → Bool
  | .infinite a, .infinite b => a && !b
  | .infinite a, .fraction _ _ => a
  | .fraction _ _, .infinite b => !b
  | .fraction a p, .fraction b q => a * q < b * p
  | _, _ => false

end Magnitude

namespace Value

/-- The exact value of a number or a truth value; none for other values. -/
def magnitude? : Value → Option Magnitude
  | .bool b => some (.fraction (if b then 1 else 0) 1)
  | .int n => some (.fraction n 1)
  | .float .nan => some .nan
  | .float (.infinite s) => some (.infinite s)
  | .float x => x.ratio?.map .ofRatio
  | .decimal (.nan _ _) => some .nan
  | .decimal (.infinite s) => some (.infinite s)
  | .decimal d => d.ratio?.map .ofRatio
  | _ => none

/-- Equality of values without members. -/
def equalScalar : Value → Value → Bool
  | .null, .null => true
  | .text a, .text b => a == b
  | .date a, .date b => decide (a = b)
  | .time a, .time b => a.sameMoment 0 b
  | .datetime d a, .datetime e b => a.sameMoment ((d.dayNumber : Int) - e.dayNumber) b
  | .uuid a, .uuid b => a == b
  | .bytes a, .bytes b => a == b
  | a, b =>
    match a.magnitude?, b.magnitude? with
    | some x, some y => x.equal y
    | _, _ => false

mutual
/-- Values that mean the same. -/
def equal : Value → Value → Bool
  | .list a, .list b => equalLists a b
  | .tuple a, .tuple b => equalLists a b
  | .set a, .set b => a.length == b.length && allMembers a b
  | .mapping a, .mapping b => a.length == b.length && allFields a b
  | .mapping a, .record b => a.length == b.length && allFields a b
  | .record a, .mapping b => a.length == b.length && allFields a b
  | .record a, .record b => a.length == b.length && allFields a b
  | a, b => equalScalar a b
/-- Lists with equal members at equal places. -/
def equalLists : List Value → List Value → Bool
  | [], [] => true
  | a :: as, b :: bs => equal a b && equalLists as bs
  | _, _ => false
/-- Every member of the first list has an equal one in the second. -/
def allMembers : List Value → List Value → Bool
  | [], _ => true
  | a :: as, bs => bs.any (fun b => equal a b) && allMembers as bs
/-- Every field of the first list has an equal one in the second. -/
def allFields : List (Value × Value) → List (Value × Value) → Bool
  | [], _ => true
  | (k, a) :: as, bs => bs.any (fun f => equal k f.1 && equal a f.2) && allFields as bs
end

/-- Texts are equal when they are the same. -/
theorem equal_text (a b : String) : (text a).equal (text b) = (a == b) := by
  rw [equal, equalScalar] <;> nofun

end Value

namespace Fields

/-- The value of a key. -/
def get? (fields : Fields) (key : Value) : Option Value :=
  fields.findSome? fun f => if f.1.equal key then some f.2 else none

/-- Sets the value of a key: in its place if an equal key is there, else at the end. -/
def put (key value : Value) : Fields → Fields
  | [] => [(key, value)]
  | f :: rest => if f.1.equal key then (f.1, value) :: rest else f :: put key value rest

/-- A mapping from pairs in order; a later value of an equal key wins, the first place stays. -/
def ofPairs (pairs : List (Value × Value)) : Fields :=
  pairs.foldl (fun fields f => put f.1 f.2 fields) []

/-- The keys in order. -/
def keys (fields : Fields) : List Value := fields.map Prod.fst

/-- The values in order. -/
def values (fields : Fields) : List Value := fields.map Prod.snd

end Fields

end BoundSql
