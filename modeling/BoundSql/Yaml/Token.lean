import BoundSql.Yaml.Cursor

/-!
# Tokens of documents

The words of the notation. Indentation has become tokens that open and close a block; a colon has
become a mark in front of a key and one in front of a value. `TokenStream` is what a reader of
structure works on: tokens, and what is wrong with the text behind the last of them.
-/

namespace BoundSql.Yaml

/-- A word of a document. -/
inductive Token where
  /-- The end of the text. -/
  | streamEnd
  /-- A directive with the version of the notation, of which this is the greater number. -/
  | version (major : Nat)
  /-- A directive that gives a handle for the beginning of tags. -/
  | tagHandle (handle beginning : String)
  /-- Another directive. -/
  | reserved
  /-- Three hyphens. -/
  | documentStart
  /-- Three dots. -/
  | documentEnd
  /-- A block of items begins. -/
  | blockListStart
  /-- A block of entries begins. -/
  | blockMappingStart
  /-- A block ends. -/
  | blockEnd
  /-- An opening bracket. -/
  | flowListStart
  /-- A closing bracket. -/
  | flowListEnd
  /-- An opening brace. -/
  | flowMappingStart
  /-- A closing brace. -/
  | flowMappingEnd
  /-- A key follows. -/
  | key
  /-- A value follows. -/
  | value
  /-- The dash of an item. -/
  | item
  /-- A comma. -/
  | comma
  /-- A node that was given a name before. -/
  | alias (name : String)
  /-- A name for the node that follows. -/
  | anchor (name : String)
  /-- A tag for the node that follows, with its handle if it has one. -/
  | tag (handle : Option String) (suffix : String)
  /-- A scalar; `plain` without quote marks. -/
  | scalar (text : List Char) (plain : Bool)
  deriving DecidableEq

/-- The tokens of a text as far as it can be read. -/
structure TokenStream where
  /-- The tokens. -/
  tokens : List Token
  /-- What is wrong behind them. -/
  ending : Fault

end BoundSql.Yaml
