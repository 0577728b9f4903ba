import BoundSql.Act

/-!
# Statement caches

A cache keeps prepared statements by their text, at most a fixed count of them, and gives up the
one that came in first when there are too many. A lookup never changes the order. A cache without
room keeps nothing and counts nothing.
-/

namespace BoundSql

/-- Prepared statements by text, with counts of what lookups met. -/
structure StatementCache (α : Type) where
  /-- The greatest count of statements. -/
  room : Nat
  /-- The statements with their texts, the one that came in first at the front. -/
  entries : List (String × α) := []
  /-- Lookups that found a statement. -/
  hits : Nat := 0
  /-- Lookups that found none. -/
  misses : Nat := 0
  /-- Statements given up. -/
  evictions : Nat := 0

namespace StatementCache

variable {α σ : Type}

/-- An empty cache; a size below zero leaves no room. -/
def ofSize (size : Int) : StatementCache α := { room := size.toNat }

/-- The statement of a text. -/
def find? (cache : StatementCache α) (sql : String) : Option α := cache.entries.lookup sql

/-- The text is there. -/
def has (cache : StatementCache α) (sql : String) : Bool := (cache.find? sql).isSome

/-- The texts, the one that came in first at the front. -/
def texts (cache : StatementCache α) : List String := cache.entries.map Prod.fst

/-- The count of statements. -/
def size (cache : StatementCache α) : Nat := cache.entries.length

/-- A lookup found a statement. -/
def noteHit (cache : StatementCache α) : StatementCache α := { cache with hits := cache.hits + 1 }

/-- A lookup found none. -/
def noteMiss (cache : StatementCache α) : StatementCache α :=
  { cache with misses := cache.misses + 1 }

/-- Gives up the first statement if there are too many. -/
def evict (cache : StatementCache α) : StatementCache α :=
  if cache.room < cache.entries.length then
    { cache with entries := cache.entries.drop 1, evictions := cache.evictions + 1 }
  else cache

/-- Takes in a statement whose text is not there. -/
def insert (cache : StatementCache α) (sql : String) (statement : α) : StatementCache α :=
  evict { cache with entries := cache.entries ++ [(sql, statement)] }

/-- Puts a statement in the place of the one with the same text, if there is one. -/
def replace (cache : StatementCache α) (sql : String) (statement : α) : StatementCache α :=
  { cache with
    entries := cache.entries.map fun e => if e.1 = sql then (e.1, statement) else e }

/-- Drops all statements; the counts stay. -/
def clear (cache : StatementCache α) : StatementCache α := { cache with entries := [] }

/-- The statement of a text, prepared if it is not there. -/
def get (prepare : String → Act σ α) (sql : String) : Act (StatementCache α × σ) α :=
  fun (c, s) =>
  if c.room = 0 then
    let (result, t) := prepare sql s
    (result, (c, t))
  else
    match c.find? sql with
    | some statement => (.ok statement, (c.noteHit, s))
    | none =>
      match prepare sql s with
      | (.ok statement, t) => (.ok statement, (c.noteMiss.insert sql statement, t))
      | (.error e, t) => (.error e, (c.noteMiss, t))

end StatementCache

end BoundSql
