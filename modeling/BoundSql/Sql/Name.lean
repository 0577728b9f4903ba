import BoundSql.Error
import BoundSql.Text.Blank

/-!
# Safe names

A safe name is an ASCII letter or low line followed by ASCII letters, digits and low lines. Only
safe names are ever written between quote marks, and the type `Name` carries the proof, so a text
with a quote mark in it can never become one.

Table names are paths of safe names with dots in between, columns may also be a star or a path
followed by a star. Blanks around names and around the parts of a path are ignored.
-/

namespace BoundSql

open Text

/-- What a safe name may begin with. -/
def isNameStart (c : Char) : Bool :=
  ('a' ≤ c && c ≤ 'z') || ('A' ≤ c && c ≤ 'Z') || c == '_'

/-- What may follow in a safe name. -/
def isNameChar (c : Char) : Bool :=
  isNameStart c || ('0' ≤ c && c ≤ '9')

/-- The text is a safe name. -/
def isSafeName : List Char → Bool
  | [] => false
  | c :: rest => isNameStart c && rest.all isNameChar

/-- A safe name. -/
structure Name where
  /-- Its characters. -/
  letters : List Char
  /-- They form a safe name. -/
  safe : isSafeName letters = true
  deriving DecidableEq

/-- The name that a text is. -/
def Name.ofChars? (letters : List Char) : Option Name :=
  if h : isSafeName letters = true then some ⟨letters, h⟩ else none

/-- Reads a name, blanks around it ignored. -/
def Name.read (s : String) : Except Error Name :=
  let letters := trim s.toList
  match Name.ofChars? letters with
  | some name => .ok name
  | none => .error (.unsafeName (String.ofList letters))

/-- One or more names with dots in between. -/
structure Path where
  /-- The first name. -/
  head : Name
  /-- The names after it. -/
  tail : List Name
  deriving DecidableEq

/-- The names of a path in order. -/
def Path.segments (p : Path) : List Name := p.head :: p.tail

/-- Reads one part of a path; `whole` is the path as it was given. -/
def readSegment (whole segment : List Char) : Except Error Name :=
  match Name.ofChars? (trim segment) with
  | some name => .ok name
  | none => .error (.unsafeSegment (String.ofList (trim segment)) (String.ofList whole))

/-- Reads the parts of a path in order; the first bad one is reported. -/
def readSegments (whole : List Char) : List (List Char) → Except Error (List Name)
  | [] => .ok []
  | segment :: rest => do
    let name ← readSegment whole segment
    let names ← readSegments whole rest
    return name :: names

/-- Reads a path from characters. -/
def Path.readChars (s : List Char) : Except Error Path :=
  let whole := trim s
  if whole.isEmpty then .error .emptyName
  else do
    match ← readSegments whole (Text.splitAt '.' whole) with
    | head :: tail => return ⟨head, tail⟩
    | [] => throw .emptyName

/-- Reads a path. -/
def Path.read (s : String) : Except Error Path := Path.readChars s.toList

/-- What may stand where a column is expected. -/
inductive ColumnRef where
  /-- All columns. -/
  | star
  /-- One column. -/
  | column (path : Path)
  /-- All columns of a table. -/
  | allOf (path : Path)
  deriving DecidableEq

/-- What stands in front of a final dot and star. -/
def beforeDotStar? (s : List Char) : Option (List Char) :=
  match s.reverse with
  | '*' :: '.' :: rest => some rest.reverse
  | _ => none

/-- Reads a column, a star, or a table followed by a star. -/
def ColumnRef.read (s : String) : Except Error ColumnRef :=
  let name := trim s.toList
  if name = ['*'] then .ok .star
  else
    match beforeDotStar? name with
    | some table => (Path.readChars table).map .allOf
    | none => (Path.readChars name).map .column

/-- A table with an optional label. -/
structure TableRef where
  /-- The table. -/
  path : Path
  /-- The name it goes by in the statement. -/
  label : Option Name
  deriving DecidableEq

/-- Reads a table with its label; an empty label is none. -/
def TableRef.read (table : String) (label : Option String) : Except Error TableRef := do
  let path ← Path.read table
  match label with
  | none => return ⟨path, none⟩
  | some a => if a = "" then return ⟨path, none⟩ else return ⟨path, some (← Name.read a)⟩

end BoundSql
