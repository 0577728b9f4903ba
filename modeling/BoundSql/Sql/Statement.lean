import BoundSql.Query
import BoundSql.Sql.Dialect

/-!
# Statements

A statement is a tree in which every name is a safe name and every value has become a placeholder.
Its text is the concatenation of tokens; only name tokens depend on the dialect, through the quote
mark. The tree is independent of the dialect.
-/

namespace BoundSql

/-- What an identity test compares with. -/
inductive Literal where
  | null
  | truth (b : Bool)
  deriving DecidableEq

/-- The word of a literal. -/
def Literal.text : Literal → String
  | .null => "NULL"
  | .truth b => if b then "TRUE" else "FALSE"

/-- A condition of a statement. -/
inductive Predicate where
  /-- A column compared with one parameter. -/
  | compare (column : ColumnRef) (operator : Operator)
  /-- A column tested for membership among parameters. -/
  | among (column : ColumnRef) (operator : Operator) (size : Nat)
  /-- A column tested for identity with a literal. -/
  | identity (column : ColumnRef) (operator : Operator) (literal : Literal)
  /-- A condition that holds always or never. -/
  | constant (holds : Bool)
  deriving DecidableEq

/-- Conditions with the connectives that tie each to the ones before it; that of the first is not
written. -/
abbrev Conditions := List (Connective × Predicate)

/-- A joined table of a statement. -/
structure JoinClause where
  /-- Which rows are kept. -/
  kind : JoinKind
  /-- The table. -/
  table : TableRef
  /-- The column on the left. -/
  left : ColumnRef
  /-- The comparison. -/
  sign : JoinSign
  /-- The column on the right. -/
  right : ColumnRef
  deriving DecidableEq

/-- Where rows come from: everything from the table up to the conditions on groups. -/
structure Source where
  /-- The table. -/
  table : Path
  /-- Joined tables. -/
  joins : List JoinClause
  /-- Conditions on rows. -/
  filters : Conditions
  /-- Columns to group by. -/
  grouping : List ColumnRef
  /-- Conditions on groups. -/
  groupFilters : Conditions
  deriving DecidableEq

/-- What a select asks for. -/
inductive Selection where
  /-- Columns; none means all. -/
  | columns (refs : List ColumnRef)
  /-- The count of rows. -/
  | count
  deriving DecidableEq

/-- A statement. -/
inductive Statement where
  /-- Reads rows. -/
  | select (selection : Selection) (source : Source) (ordering : List (ColumnRef × Direction))
      (limit offset : Option Int)
  /-- Adds rows. -/
  | insert (table : Path) (columns : List Name) (rows : Nat)
  /-- Changes rows. -/
  | update (table : Path) (columns : List Name) (filters : Conditions) (limit : Option Int)
  /-- Removes rows. -/
  | delete (table : Path) (filters : Conditions) (limit : Option Int)
  deriving DecidableEq

/-- The smallest parts of a statement's text. -/
inductive Token where
  /-- A fixed word or sign with its blanks. -/
  | word (s : String)
  /-- A word of a query put together by hand. -/
  | free (s : String)
  /-- A name, written between quote marks. -/
  | name (n : Name)
  /-- The place of a parameter. -/
  | placeholder
  /-- An integer. -/
  | integer (n : Int)
  deriving DecidableEq

namespace Token

/-- The characters of a token. -/
def chars (mark : Char) : Token → List Char
  | .word s => s.toList
  | .free s => s.toList
  | .name n => mark :: n.letters ++ [mark]
  | .placeholder => ['?']
  | .integer n => integerText n

/-- The text of tokens. -/
def render (mark : Char) (tokens : List Token) : List Char := tokens.flatMap (chars mark)

/-- Groups of tokens with a separator in between. -/
def separated (separator : Token) : List (List Token) → List Token
  | [] => []
  | [group] => group
  | group :: more => group ++ separator :: separated separator more

/-- Groups of tokens with commas in between. -/
def listed (groups : List (List Token)) : List Token := separated (.word ", ") groups

/-- Placeholders with commas in between. -/
def placeholders (count : Nat) : List Token := listed (List.replicate count [.placeholder])

end Token

/-- The tokens of a path. -/
def Path.tokens (p : Path) : List Token :=
  Token.separated (.word ".") (p.segments.map fun n => [.name n])

/-- The tokens of a column. -/
def ColumnRef.tokens : ColumnRef → List Token
  | .star => [.word "*"]
  | .column path => path.tokens
  | .allOf path => path.tokens ++ [.word ".", .word "*"]

/-- The tokens of a table. -/
def TableRef.tokens (t : TableRef) : List Token :=
  t.path.tokens ++
    (match t.label with
      | some label => [.word " AS ", .name label]
      | none => [])

/-- The token of a connective. -/
def Connective.token : Connective → Token
  | .other word => .free word
  | c => .word c.text

/-- The token of a join kind. -/
def JoinKind.token : JoinKind → Token
  | .other word => .free word
  | k => .word k.text

/-- The token of a join sign. -/
def JoinSign.token : JoinSign → Token
  | .other word => .free word
  | s => .word s.text

/-- The token of a direction. -/
def Direction.token : Direction → Token
  | .other word => .free word
  | d => .word d.text

/-- The tokens of a condition. -/
def Predicate.tokens : Predicate → List Token
  | .compare column op =>
    column.tokens ++ [.word " ", .word op.text, .word " ", .placeholder]
  | .among column op size =>
    column.tokens ++ [.word " ", .word op.text, .word " ("] ++ Token.placeholders size ++
      [.word ")"]
  | .identity column op literal =>
    column.tokens ++ [.word " ", .word op.text, .word " ", .word literal.text]
  | .constant holds => [.word (if holds then "1=1" else "0=1")]

/-- The tokens of conditions after the first one. -/
def Conditions.moreTokens (conditions : Conditions) : List Token :=
  conditions.flatMap fun c => .word " " :: c.1.token :: .word " " :: c.2.tokens

/-- The tokens of conditions; the connective of the first is not written. -/
def Conditions.tokens : Conditions → List Token
  | [] => []
  | first :: more => first.2.tokens ++ Conditions.moreTokens more

/-- The tokens of a clause of conditions behind its keyword; no conditions, no clause. -/
def Conditions.clause (keyword : Token) (conditions : Conditions) : List Token :=
  if conditions.isEmpty then []
  else .word " " :: keyword :: .word " " :: conditions.tokens

/-- The tokens of a joined table. -/
def JoinClause.tokens (j : JoinClause) : List Token :=
  [.word " ", j.kind.token, .word " JOIN "] ++ j.table.tokens ++ .word " ON " ::
    j.left.tokens ++ [.word " ", j.sign.token, .word " "] ++ j.right.tokens

/-- The tokens of a clause of columns; no columns, no clause. -/
def columnClause (keyword : String) (groups : List (List Token)) : List Token :=
  if groups.isEmpty then [] else .word keyword :: Token.listed groups

/-- The tokens from the table up to the conditions on groups. -/
def Source.tokens (s : Source) : List Token :=
  s.table.tokens ++ s.joins.flatMap JoinClause.tokens ++
    s.filters.clause (.word "WHERE") ++
    columnClause " GROUP BY " (s.grouping.map ColumnRef.tokens) ++
    s.groupFilters.clause (.word "HAVING")

/-- The name under which a count is reported. -/
def countName : Name := ⟨['c', 'n', 't'], by decide⟩

/-- The tokens of what a select asks for. -/
def Selection.tokens : Selection → List Token
  | .columns [] => [.word "*"]
  | .columns refs => Token.listed (refs.map ColumnRef.tokens)
  | .count => [.word "COUNT(*) AS ", .name countName]

/-- The tokens of a bound on rows behind its keyword. -/
def boundClause (keyword : String) : Option Int → List Token
  | some n => [.word keyword, .integer n]
  | none => []

/-- The tokens of one key of an ordering. -/
def orderTokens (term : ColumnRef × Direction) : List Token :=
  term.1.tokens ++ [.word " ", term.2.token]

/-- The tokens of one row of placeholders. -/
def rowTokens (width : Nat) : List Token :=
  .word "(" :: Token.placeholders width ++ [.word ")"]

/-- The tokens of a statement. -/
def Statement.tokens : Statement → List Token
  | .select selection source ordering limit offset =>
    .word "SELECT " :: selection.tokens ++ .word " FROM " :: source.tokens ++
      columnClause " ORDER BY " (ordering.map orderTokens) ++
      boundClause " LIMIT " limit ++ boundClause " OFFSET " offset
  | .insert table columns rows =>
    .word "INSERT INTO " :: table.tokens ++ .word " (" ::
      Token.listed (columns.map fun n => [.name n]) ++ .word ") VALUES " ::
      Token.listed (List.replicate rows (rowTokens columns.length))
  | .update table columns filters limit =>
    .word "UPDATE " :: table.tokens ++ .word " SET " ::
      Token.listed (columns.map fun n => [.name n, .word " = ", .placeholder]) ++
      filters.clause (.word "WHERE") ++ boundClause " LIMIT " limit
  | .delete table filters limit =>
    .word "DELETE FROM " :: table.tokens ++ filters.clause (.word "WHERE") ++
      boundClause " LIMIT " limit

/-- The text of a statement in a dialect. -/
def Statement.sql (d : Dialect) (s : Statement) : String :=
  String.ofList (Token.render d.mark s.tokens)

/-- The text of tokens in a dialect. -/
def Token.sql (d : Dialect) (tokens : List Token) : String :=
  String.ofList (Token.render d.mark tokens)

/-- The text of a name in a dialect. -/
def Name.sql (d : Dialect) (n : Name) : String := Token.sql d [.name n]

/-- The text of a path in a dialect. -/
def Path.sql (d : Dialect) (p : Path) : String := Token.sql d p.tokens

/-- The text of a column in a dialect. -/
def ColumnRef.sql (d : Dialect) (c : ColumnRef) : String := Token.sql d c.tokens

/-- The text of a table in a dialect. -/
def TableRef.sql (d : Dialect) (t : TableRef) : String := Token.sql d t.tokens

/-- The text of a clause of conditions in a dialect. -/
def Conditions.sql (d : Dialect) (keyword : String) (conditions : Conditions) : String :=
  String.ofList (Token.render d.mark (conditions.clause (.free keyword)))

end BoundSql
