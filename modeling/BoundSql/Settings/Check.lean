import BoundSql.Named
import BoundSql.Settings.WholeNumber
import BoundSql.Text.Utf8
import BoundSql.Value.Text

/-!
# Checked entries

Readers for the entries of a settings mapping. A checked value is the value or the list of all
issues; `Checked.apply` puts the issues of several entries together in order, so a mapping with
several faults reports all of them.
-/

namespace BoundSql

open Text

/-- A value, or all issues that stand in its way. -/
abbrev Checked (α : Type) := Except (List Issue) α

namespace Checked

variable {α β : Type}

/-- A single fault of an entry itself. -/
def fault (f : Fault) : Checked α := .error [⟨[], f⟩]

/-- A value without issues. -/
def of (a : α) : Checked α := .ok a

/-- Applies a checked function; the issues of both sides are put together. -/
def apply : Checked (α → β) → Checked α → Checked β
  | .ok f, .ok a => .ok (f a)
  | .ok _, .error issues => .error issues
  | .error issues, .ok _ => .error issues
  | .error issues, .error more => .error (issues ++ more)

/-- The same result seen from one level further out. -/
def under (key : Value) (checked : Checked α) : Checked α :=
  checked.mapError fun issues => issues.map (Issue.under key)

end Checked

/-- The first of several names under which there is an entry, with its value. -/
def Fields.entry? (fields : Fields) (names : List String) : Option (String × Value) :=
  names.findSome? fun name => (fields.named? name).map fun v => (name, v)

/-- An entry that may be absent. -/
def optionalEntry {α : Type} (fields : Fields) (names : List String) (default : α)
    (read : Value → Checked α) : Checked α :=
  match fields.entry? names with
  | some (name, v) => (read v).under (.text name)
  | none => .ok default

/-- An entry that must be there. -/
def requiredEntry {α : Type} (fields : Fields) (name : String) (read : Value → Checked α) :
    Checked α :=
  match fields.named? name with
  | some v => (read v).under (.text name)
  | none => (Checked.fault .missing).under (.text name)

/-- The text of a value that is one, also of a byte string that encodes one. -/
def decodedText? : Value → Option (Option String)
  | .text s => some (some s)
  | .bytes content => some (decodeExact? content)
  | _ => none

/-- A text. -/
def readText (v : Value) : Checked String :=
  match decodedText? v with
  | some (some s) => .ok s
  | some none => .fault .undecodableText
  | none => .fault .notText

/-- Integers that fit into a machine word. -/
def fitsWord (n : Int) : Bool := -Int.pow 2 63 ≤ n && n < Int.pow 2 63

/-- The integer of a double. -/
def readDoubleInteger (x : Double) : Checked Int :=
  match x.truncate? with
  | none => .fault .infiniteInteger
  | some n =>
    if !x.isIntegral then .fault .fractionalInteger
    else if n.natAbs < Nat.pow 2 63 then .ok n
    else .fault .hugeInteger

/-- The integer of a decimal. -/
def readDecimalInteger (d : Decimal) : Checked Int :=
  match d.ratio? with
  | none => .fault .infiniteInteger
  | some (negative, num, den) =>
    if num % den ≠ 0 then .fault .fractionalInteger
    else .ok (if negative then -(num / den : Nat) else (num / den : Nat))

/-- An integer. Truth values count as one and zero, texts are read. -/
def readInteger (v : Value) : Checked Int :=
  match v, decodedText? v with
  | .int n, _ => .ok n
  | .bool b, _ => .ok (if b then 1 else 0)
  | .float x, _ => readDoubleInteger x
  | .decimal d, _ => readDecimalInteger d
  | _, some (some s) =>
    match WholeNumber.read s with
    | .ok n => .ok n
    | .error fault => .fault fault
  | _, some none => .fault .unreadableInteger
  | _, none => .fault .notInteger

/-- An integer that is not below zero. -/
def readNatural (v : Value) : Checked Int := do
  let n ← readInteger v
  if n < 0 then .fault .belowZero else .ok n

/-- Words for the truth values, whatever their case. -/
def truthWords : List (String × Bool) :=
  [("0", false), ("off", false), ("f", false), ("false", false), ("n", false), ("no", false),
    ("1", true), ("on", true), ("t", true), ("true", true), ("y", true), ("yes", true)]

/-- The truth value of an integer. -/
def truthOfInteger (n : Int) : Checked Bool :=
  if n = 0 then .ok false else if n = 1 then .ok true else .fault .unreadableTruth

/-- The truth value of a double. -/
def truthOfDouble (x : Double) : Checked Bool :=
  match readDoubleInteger x with
  | .ok n => truthOfInteger n
  | .error _ => .fault .notTruth

/-- The truth value of a word. -/
def truthOfText (s : String) : Checked Bool :=
  match truthWords.lookup (String.ofList (s.toList.map Char.toLower)) with
  | some b => .ok b
  | none => .fault .unreadableTruth

/-- A truth value. -/
def readTruth (v : Value) : Checked Bool :=
  match v, decodedText? v with
  | .bool b, _ => .ok b
  | .int n, _ => if fitsWord n then truthOfInteger n else .fault .notTruth
  | .float x, _ => truthOfDouble x
  | .decimal d, _ => truthOfDouble d.toDouble
  | _, some (some s) => truthOfText s
  | _, some none => .fault .unreadableTruth
  | _, none => .fault .notTruth

/-- How a key that is no text appears in the path of an issue. -/
def pathKey : Value → Value
  | .text s => .text s
  | .bool b => .int (if b then 1 else 0)
  | .int n => if fitsWord n then .int n else .text (Value.int n).shown
  | v => .text v.shown

/-- The entries of a mapping with text keys, each value read on its own. -/
def readEntries {α : Type} (read : Value → Checked α) : Fields → Checked (List (String × α))
  | [] => .ok []
  | (key, v) :: rest =>
    let name : Checked String := ((readText key).under (.text "[key]")).under (pathKey key)
    let value := (read v).under (pathKey key)
    let cons := Checked.of fun (name : String) (value : α) rest => (name, value) :: rest
    ((cons.apply name).apply value).apply (readEntries read rest)

/-- A mapping with text keys. Of two keys that read as one text the later one gives the value. -/
def readMapping {α : Type} (read : Value → Checked α) (v : Value) :
    Checked (List (String × α)) :=
  match v with
  | .mapping fields =>
    (readEntries read fields).map fun entries =>
      entries.foldl (fun named e => putNamed e.1 e.2 named) []
  | _ => .fault .notMapping

end BoundSql
