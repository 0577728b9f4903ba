import BoundSql.Error
import BoundSql.Text.Blank
import BoundSql.Value.Basic

/-!
# References to environment variables

Texts of a settings tree may refer to variables: `$\x7bNAME\x7d` must be set, and
`$\x7bNAME:-fallback\x7d` has a text that stands in when it is not. References are found from left
to right; what a variable holds is not read again. Keys of mappings are left alone.
-/

namespace BoundSql

open Text

/-- The variables of an environment. -/
abbrev Environment := List (String × String)

/-- A reference to a variable. -/
structure EnvReference where
  /-- The name of the variable. -/
  name : List Char
  /-- The text that stands in for it. -/
  fallback : Option (List Char)
  deriving DecidableEq

namespace EnvReference

/-- A character that a variable's name may begin with. -/
def isNameStart (c : Char) : Bool :=
  ('a' ≤ c && c ≤ 'z') || ('A' ≤ c && c ≤ 'Z') || c == '_'

/-- A character of a variable's name. -/
def isNameChar (c : Char) : Bool := isNameStart c || ('0' ≤ c && c ≤ '9')

/-- The end of a reference: a closing brace, or a fallback in front of one. -/
def readEnd? (name : List Char) : List Char → Option (EnvReference × List Char)
  | '\x7d' :: rest => some (⟨name, none⟩, rest)
  | ':' :: '-' :: rest =>
    match rest.dropWhile (· != '\x7d') with
    | _ :: after => some (⟨name, some (rest.takeWhile (· != '\x7d'))⟩, after)
    | [] => none
  | _ => none

/-- The reference at the front of a text, and what follows it. -/
def read? : List Char → Option (EnvReference × List Char)
  | '$' :: '\x7b' :: rest =>
    let cs := trimLeft rest
    match cs with
    | c :: _ =>
      if isNameStart c then
        readEnd? (cs.takeWhile isNameChar) (trimLeft (cs.dropWhile isNameChar))
      else none
    | [] => none
  | _ => none

/-- What a reference stands for. -/
def resolve (env : Environment) (r : EnvReference) : Except Error (List Char) :=
  match env.lookup (String.ofList r.name) with
  | some value => .ok value.toList
  | none =>
    match r.fallback with
    | some text => .ok (trim text)
    | none => .error (.configuration (.unsetVariable (String.ofList r.name)))

/-- A piece of a text with references. -/
inductive Piece where
  /-- An ordinary character. -/
  | char (c : Char)
  /-- A reference. -/
  | reference (r : EnvReference)
  deriving DecidableEq

/-- The pieces of a text; `skip` characters belong to a reference that was already read. -/
def piecesFrom (skip : Nat) : List Char → List Piece
  | [] => []
  | c :: rest =>
    match skip with
    | n + 1 => piecesFrom n rest
    | 0 =>
      match read? (c :: rest) with
      | some (r, after) => .reference r :: piecesFrom (rest.length - after.length) rest
      | none => .char c :: piecesFrom 0 rest

/-- The pieces of a text in order. -/
def pieces (s : List Char) : List Piece := piecesFrom 0 s

/-- What pieces stand for, or the first reference that stands for nothing. -/
def resolvePieces (env : Environment) : List Piece → Except Error (List Char)
  | [] => .ok []
  | .char c :: rest => do
    return c :: (← resolvePieces env rest)
  | .reference r :: rest => do
    let value ← r.resolve env
    return value ++ (← resolvePieces env rest)

/-- A text with its references resolved. -/
def expandText (env : Environment) (s : String) : Except Error String :=
  (resolvePieces env (pieces s.toList)).map String.ofList

mutual
/-- A settings tree with the references in its texts resolved. -/
def expand (env : Environment) : Value → Except Error Value
  | .text s => (expandText env s).map .text
  | .list items => (expandItems env items).map .list
  | .mapping fields => (expandFields env fields).map .mapping
  | v => .ok v
/-- The items of a list with references resolved. -/
def expandItems (env : Environment) : List Value → Except Error (List Value)
  | [] => .ok []
  | v :: rest => do
    let first ← expand env v
    let more ← expandItems env rest
    return first :: more
/-- The values of a mapping with references resolved. -/
def expandFields (env : Environment) : List (Value × Value) → Except Error (List (Value × Value))
  | [] => .ok []
  | (key, v) :: rest => do
    let first ← expand env v
    let more ← expandFields env rest
    return (key, first) :: more
end

end EnvReference

end BoundSql
