import BoundSql.Value.Comparison

/-!
# The order of keys

Pairs in the order of their keys. The longest run in front that is in order, or in strictly
reverse order, is taken as it is; each later pair is put into its place, found by halving. Keys
that are no numbers come neither before nor after others, so with such keys the halving decides
where a pair ends up, and of keys without an order the first two that are compared are reported.
-/

namespace BoundSql.Json

variable {α : Type}

/-- The key of the first pair comes before that of the second. -/
def before (a b : Value × α) : Except Error Bool := a.1.less b.1

/-- The pairs that follow in one direction: each next one before the last if `reversed`, else
none; with them what is left. -/
def runFrom (reversed : Bool) (last : Value × α) :
    List (Value × α) → Except Error (List (Value × α) × List (Value × α))
  | [] => .ok ([], [])
  | next :: rest => do
    if (← before next last) = reversed then
      let (run, left) ← runFrom reversed next rest
      return (next :: run, left)
    else return ([], next :: rest)

/-- The run in front, in order, and what is left. -/
def leadingRun : List (Value × α) → Except Error (List (Value × α) × List (Value × α))
  | first :: second :: rest => do
    let reversed ← before second first
    let (run, left) ← runFrom reversed second rest
    let run := first :: second :: run
    return (if reversed then run.reverse else run, left)
  | pairs => .ok (pairs, [])

/-- The place of a pair among sorted ones, between two bounds; `fuel` bounds the halvings. -/
def placeOf (sorted : Array (Value × α)) (pair : Value × α) :
    Nat → Nat → Nat → Except Error Nat
  | 0, low, _ => .ok low
  | fuel + 1, low, high =>
    if low < high then
      let middle := low + (high - low) / 2
      match sorted[middle]? with
      | some other => do
        if ← before pair other then placeOf sorted pair fuel low middle
        else placeOf sorted pair fuel (middle + 1) high
      | none => .ok low
    else .ok low

/-- Puts pairs into their places among sorted ones. -/
def insertAll (sorted : Array (Value × α)) :
    List (Value × α) → Except Error (Array (Value × α))
  | [] => .ok sorted
  | pair :: rest => do
    let place ← placeOf sorted pair (sorted.size + 1) 0 sorted.size
    insertAll (sorted.insertIdxIfInBounds place pair) rest

/-- Pairs sorted by key. -/
def sortByKey (pairs : List (Value × α)) : Except Error (List (Value × α)) := do
  let (run, left) ← leadingRun pairs
  return (← insertAll run.toArray left).toList

end BoundSql.Json
