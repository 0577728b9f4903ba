import BoundSql.Act

/-!
# Serial statements

A stand-in for a database that only prepares statements. A prepared statement is its serial number,
so two lookups that give the same number gave the same statement. Failures are queued.
-/

namespace BoundSql

/-- What has been prepared, and what will fail. -/
structure SerialPreparer where
  /-- The count of statements prepared so far. -/
  serial : Nat := 0
  /-- The texts that were handed over, the latest first. -/
  handed : List String := []
  /-- Messages of failures to come. -/
  failures : List String := []

/-- Prepares a statement as its serial number, or fails as it was told to. -/
def SerialPreparer.prepare (sql : String) : Act SerialPreparer Nat := fun s =>
  let s := { s with handed := sql :: s.handed }
  match s.failures with
  | message :: later => (.error (.raised "RuntimeError" message), { s with failures := later })
  | [] => (.ok (s.serial + 1), { s with serial := s.serial + 1 })

end BoundSql
