import BoundSql.Session.Driver
import BoundSql.Sql.Template

/-!
# Bound statements

How the values bound to a prepared statement reach the text that is sent. The placeholders become
binds, each bind must be there and have a value, and the template of the text says which values
are sent in which order.
-/

namespace BoundSql

/-- A statement as it is sent. -/
structure BoundStatement where
  /-- Its text. -/
  sql : String
  /-- The values of its question marks in order. -/
  values : List BoundValue

namespace Binding

/-- The value of a bind among values bound by position. -/
def value? (bound : List (Nat × BoundValue)) (name : List Char) : Option BoundValue :=
  (bound.find? fun b => Placeholder.bindName b.1 = name).map fun b => b.2.withoutTruth

/-- Refuses a statement whose placeholders are not all bound, or whose bound values have no
placeholders. -/
def checkCount (p : Prepared) (count : Nat) : Except Error Unit :=
  if p.boundValues.map Prod.fst = List.range' 1 count then .ok ()
  else .error (.argument (.parameterCount p.sql count p.bindings.length))

/-- Refuses a text that lacks the bind of a position. -/
def checkBinds (names : List (List Char)) (bound : List (Nat × BoundValue)) :
    Except Error Unit :=
  match bound.find? fun b => !names.contains (Placeholder.bindName b.1) with
  | some b => .error (.missingBind (String.ofList (Placeholder.bindName b.1)))
  | none => .ok ()

/-- The pieces of a prepared statement whose bound values fit its binds. -/
def pieces (p : Prepared) : Except Error (List BindPiece) := do
  let (text, count) := Placeholder.convert p.sql
  let pieces := BindText.pieces text.toList
  checkCount p count
  checkBinds (BindText.names pieces) p.boundValues
  return pieces

/-- Refuses a text with a bind that has no value. -/
def checkValues (names : List (List Char)) (bound : List (Nat × BoundValue)) :
    Except Error Unit :=
  match names.find? fun name => (value? bound name).isNone with
  | some name => .error (.unboundBind (String.ofList name))
  | none => .ok ()

/-- The value that a template takes under a name. -/
def taken (bound : List (Nat × BoundValue)) (name : List Char) : Except Error BoundValue :=
  match value? bound name with
  | some v => .ok v
  | none => .error (.unready "KeyError" (Text.quoted (String.ofList name)))

/-- The statement that is sent for pieces with bound values. -/
def statement (pieces : List BindPiece) (bound : List (Nat × BoundValue)) :
    Except Error BoundStatement := do
  checkValues (BindText.names pieces) bound
  let template := Template.ofText pieces
  return ⟨String.ofList (Template.sent template), ← (Template.names template).mapM (taken bound)⟩

end Binding

end BoundSql
