import BoundSql.Number.Decimal
import BoundSql.Number.Calendar

/-!
# Dynamic values

Parameters, row fields, option values and answers of hooks are values of one type. Mappings keep
the order in which their keys were inserted, and sets the order in which they list their members.
An object of an unknown class carries nothing but the fact that it is one.
-/

namespace BoundSql

/-- A value that a caller or a database may hand over. -/
inductive Value where
  /-- The absent value. -/
  | null
  /-- A truth value. -/
  | bool (truth : Bool)
  /-- An integer of any size. -/
  | int (n : Int)
  /-- A number of double precision. -/
  | float (x : Double)
  /-- A text. -/
  | text (s : String)
  /-- A decimal number. -/
  | decimal (d : Decimal)
  /-- A day. -/
  | date (day : CalendarDate)
  /-- A time of day. -/
  | time (clock : ClockTime)
  /-- A day with a time of day. -/
  | datetime (day : CalendarDate) (clock : ClockTime)
  /-- A universally unique identifier as a number of 128 bits. -/
  | uuid (bits : Nat)
  /-- A byte string. -/
  | bytes (content : List UInt8)
  /-- A list. -/
  | list (items : List Value)
  /-- A tuple. -/
  | tuple (items : List Value)
  /-- A set, in the order in which it lists its members. -/
  | set (items : List Value)
  /-- A mapping in insertion order. -/
  | mapping (fields : List (Value × Value))
  /-- A read-only row in the order of its fields. -/
  | record (fields : List (Value × Value))
  /-- An object of an unknown class. -/
  | unknown

/-- Ordered pairs of keys and values. -/
abbrev Fields := List (Value × Value)

namespace Value

instance : Inhabited Value := ⟨.null⟩

mutual
/-- Structural equality of values. -/
def same : Value → Value → Bool
  | .null, .null => true
  | .bool a, .bool b => a == b
  | .int a, .int b => a == b
  | .float a, .float b => decide (a = b)
  | .text a, .text b => a == b
  | .decimal a, .decimal b => decide (a = b)
  | .date a, .date b => decide (a = b)
  | .time a, .time b => decide (a = b)
  | .datetime a s, .datetime b t => decide (a = b) && decide (s = t)
  | .uuid a, .uuid b => a == b
  | .bytes a, .bytes b => a == b
  | .list a, .list b => sameList a b
  | .tuple a, .tuple b => sameList a b
  | .set a, .set b => sameList a b
  | .mapping a, .mapping b => sameFields a b
  | .record a, .record b => sameFields a b
  | .unknown, .unknown => true
  | _, _ => false
/-- Structural equality of lists of values. -/
def sameList : List Value → List Value → Bool
  | [], [] => true
  | a :: as, b :: bs => same a b && sameList as bs
  | _, _ => false
/-- Structural equality of ordered pairs. -/
def sameFields : Fields → Fields → Bool
  | [], [] => true
  | (k, a) :: as, (l, b) :: bs => same k l && same a b && sameFields as bs
  | _, _ => false
end

mutual
theorem same_refl : ∀ v : Value, same v v = true
  | .null => rfl
  | .bool _ => by simp [same]
  | .int _ => by simp [same]
  | .float _ => by simp [same]
  | .text _ => by simp [same]
  | .decimal _ => by simp [same]
  | .date _ => by simp [same]
  | .time _ => by simp [same]
  | .datetime _ _ => by simp [same]
  | .uuid _ => by simp [same]
  | .bytes _ => by simp [same]
  | .list xs => by rw [same]; exact sameList_refl xs
  | .tuple xs => by rw [same]; exact sameList_refl xs
  | .set xs => by rw [same]; exact sameList_refl xs
  | .mapping xs => by rw [same]; exact sameFields_refl xs
  | .record xs => by rw [same]; exact sameFields_refl xs
  | .unknown => rfl
theorem sameList_refl : ∀ xs : List Value, sameList xs xs = true
  | [] => rfl
  | x :: xs => by rw [sameList, same_refl x, sameList_refl xs]; rfl
theorem sameFields_refl : ∀ xs : Fields, sameFields xs xs = true
  | [] => rfl
  | (k, x) :: xs => by rw [sameFields, same_refl k, same_refl x, sameFields_refl xs]; rfl
end

mutual
theorem eq_of_same : ∀ {v w : Value}, same v w = true → v = w
  | .list xs, .list ys, h => by rw [same] at h; rw [eq_of_sameList h]
  | .tuple xs, .tuple ys, h => by rw [same] at h; rw [eq_of_sameList h]
  | .set xs, .set ys, h => by rw [same] at h; rw [eq_of_sameList h]
  | .mapping xs, .mapping ys, h => by rw [same] at h; rw [eq_of_sameFields h]
  | .record xs, .record ys, h => by rw [same] at h; rw [eq_of_sameFields h]
  | .null, w, h => by cases w <;> simp_all [same]
  | .bool _, w, h => by cases w <;> simp_all [same]
  | .int _, w, h => by cases w <;> simp_all [same]
  | .float _, w, h => by cases w <;> simp_all [same]
  | .text _, w, h => by cases w <;> simp_all [same]
  | .decimal _, w, h => by cases w <;> simp_all [same]
  | .date _, w, h => by cases w <;> simp_all [same]
  | .time _, w, h => by cases w <;> simp_all [same]
  | .datetime _ _, w, h => by cases w <;> simp_all [same]
  | .uuid _, w, h => by cases w <;> simp_all [same]
  | .bytes _, w, h => by cases w <;> simp_all [same]
  | .unknown, w, h => by cases w <;> simp_all [same]
theorem eq_of_sameList : ∀ {xs ys : List Value}, sameList xs ys = true → xs = ys
  | [], [], _ => rfl
  | x :: xs, y :: ys, h => by
    rw [sameList, Bool.and_eq_true] at h
    rw [eq_of_same h.1, eq_of_sameList h.2]
  | [], _ :: _, h => by simp [sameList] at h
  | _ :: _, [], h => by simp [sameList] at h
theorem eq_of_sameFields : ∀ {xs ys : Fields}, sameFields xs ys = true → xs = ys
  | [], [], _ => rfl
  | (k, x) :: xs, (l, y) :: ys, h => by
    rw [sameFields, Bool.and_eq_true, Bool.and_eq_true] at h
    rw [eq_of_same h.1.1, eq_of_same h.1.2, eq_of_sameFields h.2]
  | [], _ :: _, h => by simp [sameFields] at h
  | _ :: _, [], h => by simp [sameFields] at h
end

theorem same_iff_eq {v w : Value} : same v w = true ↔ v = w :=
  ⟨eq_of_same, fun h => h ▸ same_refl v⟩

instance : DecidableEq Value := fun _ _ => decidable_of_iff _ same_iff_eq

/-- The name of a value's class, as diagnostics give it. -/
def className : Value → String
  | .null => "NoneType"
  | .bool _ => "bool"
  | .int _ => "int"
  | .float _ => "float"
  | .text _ => "str"
  | .decimal _ => "Decimal"
  | .date _ => "date"
  | .time _ => "time"
  | .datetime _ _ => "datetime"
  | .uuid _ => "UUID"
  | .bytes _ => "bytes"
  | .list _ => "list"
  | .tuple _ => "tuple"
  | .set _ => "set"
  | .mapping _ => "dict"
  | .record _ => "Record"
  | .unknown => "Opaque"

/-- The name of a value's class with the module that it belongs to, if that has a name. -/
def qualifiedClassName : Value → String
  | .decimal _ => "decimal.Decimal"
  | .date _ => "datetime.date"
  | .time _ => "datetime.time"
  | .datetime _ _ => "datetime.datetime"
  | v => v.className

/-- The value counts as true: it is neither absent, nor zero, nor empty. -/
def truthy : Value → Bool
  | .null => false
  | .bool b => b
  | .int n => n ≠ 0
  | .float x => x.isNonzero
  | .text s => s ≠ ""
  | .decimal d => d.isNonzero
  | .bytes b => !b.isEmpty
  | .list xs => !xs.isEmpty
  | .tuple xs => !xs.isEmpty
  | .set xs => !xs.isEmpty
  | .mapping xs => !xs.isEmpty
  | .record xs => !xs.isEmpty
  | _ => true

/-- The members of a list, a tuple or a set. -/
def sequence? : Value → Option (List Value)
  | .list xs => some xs
  | .tuple xs => some xs
  | .set xs => some xs
  | _ => none

/-- The fields of a mapping. -/
def fields? : Value → Option Fields
  | .mapping kvs => some kvs
  | .record kvs => some kvs
  | _ => none

/-- What a value consists of: the members of a list, a tuple or a set, the characters of a text,
the bytes of a byte string, the keys of a mapping. -/
def members? : Value → Option (List Value)
  | .text s => some (s.toList.map fun c => .text (String.singleton c))
  | .bytes content => some (content.map fun b => .int b.toNat)
  | .mapping kvs => some (kvs.map Prod.fst)
  | .record kvs => some (kvs.map Prod.fst)
  | v => v.sequence?

/-- A text, or nothing. -/
def ofText? : Option String → Value
  | some s => .text s
  | none => .null

/-- A mapping whose keys are texts. -/
def ofNamed (fields : List (String × Value)) : Value :=
  .mapping (fields.map fun f => (.text f.1, f.2))

end Value

/-- The value of a text key. -/
def Fields.named? (fields : Fields) (name : String) : Option Value :=
  fields.findSome? fun f => if f.1 = .text name then some f.2 else none

end BoundSql
