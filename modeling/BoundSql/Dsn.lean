import BoundSql.Text.Case
import BoundSql.Url

/-!
# Redaction of data source names

A data source name is an address, or a list of entries `key=value` with semicolons in between.
What logs show of it has its password masked.
-/

namespace BoundSql

open Text

namespace Dsn

/-- A sign of addresses is in the text. -/
def looksLikeUrl : List Char → Bool
  | [] => false
  | c :: rest =>
    (match c, rest with
      | ':', '/' :: '/' :: _ => true
      | _, _ => false) || looksLikeUrl rest

/-- The key of an entry in small letters. -/
def entryKey (entry : List Char) : List Char := lower (trim (entry.takeWhile (· != '=')))

/-- Keys whose values are secret. -/
def secretKeys : List (List Char) := ["password".toList, "pwd".toList]

/-- An entry with its value masked if its key is secret. -/
def maskEntry (entry : List Char) : List Char :=
  if entryKey entry ∈ secretKeys then entryKey entry ++ ['=', '*', '*', '*'] else entry

/-- A list of entries with secret values masked and blank entries left out. -/
def maskEntries (s : List Char) : List Char :=
  joinWith [';'] ((((splitAt ';' s).map trim).filter fun entry => !entry.isEmpty).map maskEntry)

/-- A data source name with its password masked. -/
def redact (dsn : String) : Except Error String :=
  let entries := String.ofList (maskEntries dsn.toList)
  if looksLikeUrl dsn.toList then
    match Url.read dsn with
    | .ok url => .ok (url.render true)
    | .error .unparsableUrl => .ok entries
    | .error e => .error e
  else .ok entries

end Dsn

end BoundSql
