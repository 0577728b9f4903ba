import BoundSql.Yaml.Cursor

/-!
# Nodes of documents

The structure of a document: scalars, lists of nodes and mappings between nodes. Each node has a
kind, given by its tag or settled by its form, that says which values it may stand for.
-/

namespace BoundSql.Yaml

/-- What a node stands for. -/
inductive Kind where
  /-- Nothing. -/
  | null
  /-- A truth value. -/
  | truth
  /-- An integer. -/
  | integer
  /-- A number of double precision. -/
  | float
  /-- A day or a moment. -/
  | moment
  /-- A text. -/
  | text
  /-- A byte string. -/
  | bytes
  /-- As a key: the fields of other mappings. -/
  | merge
  /-- The value of a mapping that stands for a scalar. -/
  | default
  /-- A list. -/
  | list
  /-- A mapping. -/
  | mapping
  /-- The keys of a mapping. -/
  | set
  /-- A list of pairs. -/
  | pairs
  /-- Something that settings do not know. -/
  | foreign
  deriving DecidableEq

/-- The beginning of the tags that name kinds. -/
def Kind.tagBeginning : String := "tag:yaml.org,2002:"

/-- The kinds that tags can name. -/
def Kind.named : List (String × Kind) :=
  [("null", .null), ("bool", .truth), ("int", .integer), ("float", .float),
    ("timestamp", .moment), ("str", .text), ("binary", .bytes), ("merge", .merge),
    ("value", .default), ("seq", .list), ("map", .mapping), ("set", .set), ("omap", .pairs),
    ("pairs", .pairs)]

/-- The kind that a tag names. -/
def Kind.ofTag (tag : String) : Kind :=
  ((Kind.named.find? fun named => Kind.tagBeginning ++ named.1 = tag).map Prod.snd).getD .foreign

/-- The value of the kind has members of its own. -/
def Kind.hasMembers : Kind → Bool
  | .list | .mapping | .set | .pairs => true
  | _ => false

/-- A part of a document. -/
inductive Node where
  /-- A node around this place, which is so a member of itself. -/
  | again (kind : Kind) (isMapping : Bool)
  /-- A scalar with its text. -/
  | scalar (kind : Kind) (text : List Char)
  /-- A list with its items. -/
  | list (kind : Kind) (items : List Node)
  /-- A mapping with its entries. -/
  | mapping (kind : Kind) (entries : List (Node × Node))

/-- The kind of a node. -/
def Node.kind : Node → Kind
  | .again kind _ => kind
  | .scalar kind _ => kind
  | .list kind _ => kind
  | .mapping kind _ => kind

end BoundSql.Yaml
