import BoundSql.Text.Percent
import BoundSql.Value.Integer

/-!
# Addresses of databases

An address names a backend and its driver, and may hold a user with a password, a host with a
port, a database and a query. `Url.read` reads the longest beginning of a text that is an address,
`Url.render` writes one with the password shown or masked. User, password and database are
percent-encoded in the text and plain in the structure.
-/

namespace BoundSql

open Text

/-- The parts of an address. -/
structure Url where
  /-- The backend, with a driver behind a plus sign or without one. -/
  name : List Char
  /-- The user. -/
  username : Option (List Char)
  /-- The password. -/
  password : Option (List Char)
  /-- The host. -/
  host : Option (List Char)
  /-- The port. -/
  port : Option Int
  /-- The database. -/
  database : Option (List Char)
  /-- The fields of the query with all their values, in order of first occurrence. -/
  query : List (List Char × List (List Char))
  deriving DecidableEq

namespace Url

/-- A character of the name. -/
def isNameLetter (c : Char) : Bool := isWordChar c || c == '+'

/-- The name and what follows the sign that ends it. -/
def splitName? (s : List Char) : Option (List Char × List Char) :=
  let name := s.takeWhile isNameLetter
  match s.dropWhile isNameLetter with
  | ':' :: '/' :: '/' :: rest => if name.isEmpty then none else some (name, rest)
  | _ => none

/-- What stands before and after the last occurrence of a character. -/
def cutAtLast? (separator : Char) (s : List Char) : Option (List Char × List Char) :=
  (cutAt? separator s.reverse).map fun parts => (parts.2.reverse, parts.1.reverse)

/-- A user with or without a password, as they are written. -/
structure Credentials where
  /-- The user. -/
  username : List Char
  /-- The password. -/
  password : Option (List Char)

/-- A character that may stand in a user. -/
def isUserLetter (c : Char) : Bool := c != ':' && c != '/'

/-- The password behind a colon, up to the at sign, and what follows. -/
def splitPassword? : List Char → Option (List Char × List Char)
  | ':' :: rest => cutAt? '@' rest
  | _ => none

/-- The credentials in front of a text, and what follows. -/
def splitCredentials (s : List Char) : Option Credentials × List Char :=
  let user := s.takeWhile isUserLetter
  let rest := s.dropWhile isUserLetter
  match splitPassword? rest with
  | some (password, more) => (some ⟨user, some password⟩, more)
  | none =>
    match cutAtLast? '@' user with
    | some (name, more) => (some ⟨name, none⟩, more ++ rest)
    | none => (none, s)

/-- A character that ends neither host nor port. -/
def isHostLetter (c : Char) : Bool := c != '/' && c != '?'

/-- A host between brackets in front of a text, and what follows. -/
def splitBracketed? : List Char → Option (List Char × List Char)
  | '[' :: rest =>
    let inside := rest.takeWhile isHostLetter
    match cutAtLast? ']' inside with
    | some (host, more) =>
      if host.isEmpty then none else some (host, more ++ rest.dropWhile isHostLetter)
    | none => none
  | _ => none

/-- The host in front of a text, and what follows. -/
def splitHost (s : List Char) : Option (List Char) × List Char :=
  match splitBracketed? s with
  | some (host, rest) => (some host, rest)
  | none =>
    let host := s.takeWhile fun c => isHostLetter c && c != ':'
    if host.isEmpty then (none, s)
    else (some host, s.dropWhile fun c => isHostLetter c && c != ':')

/-- The port behind a colon, and what follows. -/
def splitPort : List Char → Option (List Char) × List Char
  | ':' :: rest => (some (rest.takeWhile isHostLetter), rest.dropWhile isHostLetter)
  | s => (none, s)

/-- The database behind a slash, and what follows. -/
def splitDatabase : List Char → Option (List Char) × List Char
  | '/' :: rest => (some (rest.takeWhile (· != '?')), rest.dropWhile (· != '?'))
  | s => (none, s)

/-- The query behind a question mark, up to the end of the line. -/
def splitQuery : List Char → List Char
  | '?' :: rest => rest.takeWhile (· != '\n')
  | _ => []

/-- Adds a value to the field of a name, at the end if the name is new. -/
def addField (name value : List Char) :
    List (List Char × List (List Char)) → List (List Char × List (List Char))
  | [] => [(name, [value])]
  | f :: rest => if f.1 = name then (f.1, f.2 ++ [value]) :: rest else f :: addField name value rest

/-- Fields with all values of one name together. -/
def collectFields (fields : List (List Char × List Char)) : List (List Char × List (List Char)) :=
  fields.foldl (fun collected f => addField f.1 f.2 collected) []

/-- The number of a port. -/
def readPort : Option (List Char) → Except Error (Option Int)
  | none => .ok none
  | some digits => (Value.integerOfText (String.ofList digits)).map some

/-- Reads an address from characters. -/
def readChars (s : List Char) : Except Error Url :=
  match splitName? s with
  | none => .error .unparsableUrl
  | some (name, s) => do
    let (credentials, s) := splitCredentials s
    let (host, s) := splitHost s
    let (port, s) := splitPort s
    let (database, s) := splitDatabase s
    let query := collectFields (formFields (splitQuery s))
    let port ← readPort port
    return ⟨name, credentials.map fun c => percentDecode c.username,
      (credentials.bind Credentials.password).map percentDecode, host, port,
      database.map percentDecode, query⟩

/-- Reads an address. -/
def read (s : String) : Except Error Url := readChars s.toList

/-- The backend: the name up to the first plus sign. -/
def backend (u : Url) : String := String.ofList (u.name.takeWhile (· != '+'))

/-- The credentials of an address; a masked password becomes three stars. -/
def renderCredentials (masked : Bool) (u : Url) : List Char :=
  match u.username with
  | none => []
  | some user =>
    percentEncode [' ', '+'] user ++
      (match u.password with
        | none => []
        | some password =>
          ':' :: (if masked then ['*', '*', '*'] else percentEncode [' ', '+'] password)) ++ ['@']

/-- The host, between brackets if a colon is in it. -/
def renderHost : Option (List Char) → List Char
  | none => []
  | some host => if host.contains ':' then '[' :: host ++ [']'] else host

/-- The query with its names in order. -/
def renderQuery (query : List (List Char × List (List Char))) : List Char :=
  let sorted := query.mergeSort fun a b => decide (String.ofList a.1 ≤ String.ofList b.1)
  let pairs := sorted.flatMap fun f => f.2.map fun v => formEncode f.1 ++ '=' :: formEncode v
  if pairs.isEmpty then [] else '?' :: joinWith ['&'] pairs

/-- The text of an address from its characters. -/
def renderChars (masked : Bool) (u : Url) : List Char :=
  u.name ++ ':' :: '/' :: '/' :: renderCredentials masked u ++ renderHost u.host ++
    (match u.port with
      | some n => ':' :: integerText n
      | none => []) ++
    (match u.database with
      | some database => '/' :: percentEncode [' ', '+', '/'] database
      | none => []) ++
    renderQuery u.query

/-- The text of an address, its password masked or shown. -/
def render (masked : Bool) (u : Url) : String := String.ofList (renderChars masked u)

/-- The address names neither a user nor a host, as that of a file does. -/
def isLocal (u : Url) : Bool :=
  (u.username.getD []).isEmpty && (u.password.getD []).isEmpty && (u.host.getD []).isEmpty &&
    u.port.getD 0 == 0

/-- The address with other credentials; an empty user leaves it as it is, and an empty password
leaves its password. -/
def withCredentials (u : Url) (username password : String) : Url :=
  if username = "" then u
  else
    { u with
      username := some username.toList
      password := if password = "" then u.password else some password.toList }

end Url

end BoundSql
