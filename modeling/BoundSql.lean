import BoundSql.Act
import BoundSql.Adapter
import BoundSql.Backend
import BoundSql.BoundValue
import BoundSql.Dsn
import BoundSql.Error
import BoundSql.Error.Report
import BoundSql.Json.KeyOrder
import BoundSql.Json.Read
import BoundSql.Json.Style
import BoundSql.Json.Write
import BoundSql.Named
import BoundSql.Number.Calendar
import BoundSql.Number.Decimal
import BoundSql.Number.Double
import BoundSql.Number.Numeral
import BoundSql.Number.Shortest
import BoundSql.ParamNote
import BoundSql.Proofs.Clauses
import BoundSql.Proofs.Compilation
import BoundSql.Proofs.Digits
import BoundSql.Proofs.Grammar
import BoundSql.Proofs.Results
import BoundSql.Proofs.Tokens
import BoundSql.Query
import BoundSql.Rehearsal.Preparer
import BoundSql.Rehearsal.Script
import BoundSql.Rehearsal.World
import BoundSql.Session.Autobegin
import BoundSql.Session.Binding
import BoundSql.Session.Builder
import BoundSql.Session.Connections
import BoundSql.Session.Driver
import BoundSql.Session.Executor
import BoundSql.Session.Outcome
import BoundSql.Session.Transactions
import BoundSql.Settings.Basic
import BoundSql.Settings.Check
import BoundSql.Settings.Connection
import BoundSql.Settings.EnvReference
import BoundSql.Settings.Environment
import BoundSql.Settings.ErrorMode
import BoundSql.Settings.File
import BoundSql.Settings.Issue
import BoundSql.Settings.WholeNumber
import BoundSql.Shape
import BoundSql.Sql.Compile
import BoundSql.Sql.Dialect
import BoundSql.Sql.JoinCondition
import BoundSql.Sql.Name
import BoundSql.Sql.Operator
import BoundSql.Sql.Placeholder
import BoundSql.Sql.Statement
import BoundSql.Sql.Template
import BoundSql.StatementCache
import BoundSql.Text.Alnum
import BoundSql.Text.Base64
import BoundSql.Text.Blank
import BoundSql.Text.Case
import BoundSql.Text.CaseTable
import BoundSql.Text.Digit
import BoundSql.Text.Percent
import BoundSql.Text.Printable
import BoundSql.Text.Quoted
import BoundSql.Text.Utf8
import BoundSql.Url
import BoundSql.Value.Basic
import BoundSql.Value.Comparison
import BoundSql.Value.Equality
import BoundSql.Value.Integer
import BoundSql.Value.Text
import BoundSql.Yaml.BlockText
import BoundSql.Yaml.Cursor
import BoundSql.Yaml.Document
import BoundSql.Yaml.Moment
import BoundSql.Yaml.Node
import BoundSql.Yaml.Node.Grammar
import BoundSql.Yaml.Plain
import BoundSql.Yaml.Property
import BoundSql.Yaml.Quoted
import BoundSql.Yaml.Scalar
import BoundSql.Yaml.Token
import BoundSql.Yaml.Token.Lexer
import BoundSql.Proofs.Sentences
import BoundSql.Proofs.Filling
import BoundSql.Proofs.Inline
import BoundSql.Proofs.Line
import BoundSql.Proofs.Connections
import BoundSql.Proofs.Depth
import BoundSql.Proofs.Nesting
import BoundSql.Proofs.Notes
import BoundSql.Proofs.Statements
import BoundSql.Proofs.Caching
import BoundSql.Proofs.Attempts
import BoundSql.Proofs.Retries
import BoundSql.Proofs.Terminals
import BoundSql.Proofs.LastError
import BoundSql.Proofs.Pages
import BoundSql.Proofs.Serving
import BoundSql.Proofs.SafeMode
import BoundSql.Proofs.Reading
import BoundSql.Proofs.Faithful
import BoundSql.Proofs.Plain
import BoundSql.Proofs.Sealed
import BoundSql.Proofs.Binds
import BoundSql.Proofs.Histories
import BoundSql.Proofs.Calls
import BoundSql.Proofs.Refusals
import BoundSql.Proofs.Journal
import BoundSql.Proofs.Levels
import BoundSql.Proofs.Handovers
import BoundSql.Proofs.Custody
import BoundSql.Proofs.Operations
import BoundSql.Proofs.Discipline
import BoundSql.Proofs.Explicit
import BoundSql.Proofs.Readable
import BoundSql.Proofs.Unambiguous
import BoundSql.Proofs.Recovery
import BoundSql.Proofs.Forms
import BoundSql.Proofs.Repeats
import BoundSql.Proofs.Usable
import BoundSql.Proofs.Redaction
import BoundSql.Proofs.Published
import BoundSql.Proofs.Lexemes
import BoundSql.Proofs.Formulas
import BoundSql.Proofs.Meaning
import BoundSql.Proofs.WholeTable
import BoundSql.Proofs.Parallel
import BoundSql.Proofs.Steady
import BoundSql.Proofs.Recording
import BoundSql.Proofs.Scripts
import BoundSql.Proofs.Blocks
import BoundSql.Proofs.Timing
import BoundSql.Proofs.Reports
import BoundSql.Proofs.Evictions
import BoundSql.Proofs.Quotients
import BoundSql.Proofs.Executions
import BoundSql.Proofs.Paging
import BoundSql.Proofs.Tiling
import BoundSql.Proofs.Totals
import BoundSql.Proofs.References
import BoundSql.Proofs.Expansion
import BoundSql.Proofs.Survivors
import BoundSql.Proofs.LogWindow
import BoundSql.Proofs.Keys
import BoundSql.Proofs.Switchboard
import BoundSql.Proofs.Lasting
import BoundSql.Proofs.Uses
import BoundSql.Proofs.LastKeys
import BoundSql.Proofs.Marks
import BoundSql.Proofs.Acceptance
import BoundSql.Proofs.Escapes
import BoundSql.Proofs.Literals
import BoundSql.Proofs.Sorting
import BoundSql.Proofs.Documents
import BoundSql.Proofs.Tidings
import BoundSql.Proofs.Native
import BoundSql.Proofs.Lossless
import BoundSql.Proofs.RawRows
import BoundSql.Proofs.Trimming
import BoundSql.Proofs.JoinConditions
import BoundSql.Proofs.Pieces
import BoundSql.Proofs.NameParts
import BoundSql.Proofs.Quoting
import BoundSql.Proofs.Credentials
import BoundSql.Proofs.Servers
import BoundSql.Proofs.Ports
import BoundSql.Proofs.QuotedRegions
import BoundSql.Proofs.Conversions
import BoundSql.Proofs.FixedSettings
