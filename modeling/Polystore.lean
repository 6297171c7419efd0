import Polystore.Blueprint
import Polystore.Calendar
import Polystore.Config.Basic
import Polystore.Config.Document
import Polystore.Connection
import Polystore.Engine
import Polystore.Error
import Polystore.Exchange.Basic
import Polystore.Exchange.Blueprint
import Polystore.Exchange.Config
import Polystore.Exchange.Error
import Polystore.Exchange.Query
import Polystore.Exchange.Request
import Polystore.Exchange.Value
import Polystore.Identifier.Basic
import Polystore.Identifier.Source
import Polystore.Json
import Polystore.Json.Reader
import Polystore.Memory.Comparison
import Polystore.Memory.Find
import Polystore.Memory.Matching
import Polystore.Memory.Server
import Polystore.Memory.SmallSort
import Polystore.Memory.StableSort
import Polystore.Memory.Store
import Polystore.NameTable
import Polystore.Native.Engine
import Polystore.Native.Filter
import Polystore.Native.Join
import Polystore.Native.Pattern
import Polystore.Native.Read
import Polystore.Native.Schema
import Polystore.Number.Binary64
import Polystore.Number.Decimal128
import Polystore.Number.Layout
import Polystore.Number.Shortest
import Polystore.ObjectId
import Polystore.Page
import Polystore.Program
import Polystore.Proofs.Clauses.Truth
import Polystore.Proofs.Pattern.Expression
import Polystore.Query.Basic
import Polystore.Query.Refinement
import Polystore.Regex.Basic
import Polystore.Regex.Reader
import Polystore.Regex.Token
import Polystore.Registry.Backend
import Polystore.Registry.Basic
import Polystore.Relationship
import Polystore.Schema
import Polystore.Script
import Polystore.Sql.Condition
import Polystore.Sql.Definition
import Polystore.Sql.Dialect
import Polystore.Sql.Engine
import Polystore.Sql.Row
import Polystore.Sql.Schema
import Polystore.Sql.Select
import Polystore.Sql.Statement
import Polystore.Sql.Storage
import Polystore.Sql.Write
import Polystore.Text.Base64
import Polystore.Text.Blank
import Polystore.Text.Classes
import Polystore.Text.DigitRanges
import Polystore.Text.Escaped
import Polystore.Text.ExtenderRanges
import Polystore.Text.Folding
import Polystore.Text.FoldingRanges
import Polystore.Text.Hex
import Polystore.Text.Segments
import Polystore.Text.UnprintableRanges
import Polystore.Text.WordRanges
import Polystore.Toml.Basic
import Polystore.Toml.Quoted
import Polystore.Toml.Reader
import Polystore.Toml.Scalar
import Polystore.Toml.Writer
import Polystore.Validation
import Polystore.Value.Basic
import Polystore.Value.Display
import Polystore.Value.Equality
import Polystore.Value.Extended
import Polystore.Proofs.Pattern.Matching
import Polystore.Proofs.Filter.Meaning
import Polystore.Proofs.Statement.Lexeme
import Polystore.Proofs.Statement.Formula
import Polystore.Proofs.Statement.Written
import Polystore.Proofs.Statement.Truth
import Polystore.Proofs.Filter.TableRow
import Polystore.Proofs.Program.Run
import Polystore.Proofs.Program.Record
import Polystore.Proofs.Rows.Origin
import Polystore.Proofs.Rows.Lookup
import Polystore.Proofs.Memory.Ledger
import Polystore.Proofs.Memory.Serializable
import Polystore.Proofs.Value.Equality
import Polystore.Proofs.Memory.Sorting
import Polystore.Proofs.Memory.Preorder
import Polystore.Proofs.Memory.Merging
import Polystore.Proofs.Memory.Runs
import Polystore.Proofs.Memory.StableSort
import Polystore.Proofs.Memory.Ordering
import Polystore.Proofs.Joins.Merged
import Polystore.Proofs.Joins.Lookup
import Polystore.Proofs.Joins.Rows
import Polystore.Proofs.Joins.ClauseOrder
import Polystore.Proofs.Program.Calls
import Polystore.Proofs.Memory.Identifiers
import Polystore.Proofs.Memory.Session
import Polystore.Proofs.Statement.Places
import Polystore.Proofs.Statement.Bindings
import Polystore.Proofs.Statement.Commands
import Polystore.Proofs.Statement.Outline
import Polystore.Proofs.Program.Reading
import Polystore.Proofs.Value.Printed
import Polystore.Proofs.Joins.Rearranged
import Polystore.Proofs.Rows.Count
import Polystore.Proofs.Rows.Pages
import Polystore.Proofs.Rows.Window
import Polystore.Proofs.Statement.Grammar
import Polystore.Proofs.Statement.Parsed
import Polystore.Proofs.Registry.Slots
import Polystore.Proofs.Registry.Connecting
import Polystore.Proofs.Rows.RoundTrip
import Polystore.Proofs.Clauses.Unreadable
import Polystore.Proofs.Rows.Written
import Polystore.Proofs.Rows.Projection
import Polystore.Proofs.Program.Rejection
import Polystore.Proofs.Program.Batches
import Polystore.Proofs.Rows.Rejected
import Polystore.Proofs.Program.Uniform
import Polystore.Proofs.Transaction.Callback
import Polystore.Proofs.Transaction.Atomic
import Polystore.Proofs.Registry.Lifecycle
import Polystore.Proofs.Query.Commuting
import Polystore.Proofs.Query.Built
import Polystore.Proofs.Statement.Parts
import Polystore.Proofs.Statement.Outputs
import Polystore.Proofs.Memory.Assigned
import Polystore.Proofs.Joins.Related
import Polystore.Proofs.Rows.Folded
import Polystore.Proofs.Joins.Shape
import Polystore.Proofs.Joins.Relational
import Polystore.Proofs.Pattern.Like
import Polystore.Proofs.Pattern.Search
import Polystore.Proofs.Rows.Canonical
import Polystore.Proofs.Memory.Refusal
import Polystore.Proofs.Memory.Positions
import Polystore.Proofs.Rows.Flattened
import Polystore.Proofs.Number.Rounding
import Polystore.Proofs.Memory.Integers
import Polystore.Proofs.Identifier.Normalised
import Polystore.Proofs.Memory.Stability
import Polystore.Proofs.Memory.SortDocument
import Polystore.Proofs.Statement.Quoted
import Polystore.Proofs.Statement.Altered
import Polystore.Proofs.Validation.Modes
import Polystore.Proofs.Rows.Loaded
import Polystore.Proofs.Rows.Updated
import Polystore.Proofs.Calendar.Gregorian
import Polystore.Proofs.Storage.Instants
import Polystore.Proofs.Storage.Columns
import Polystore.Proofs.Rows.PageNumbers
import Polystore.Proofs.Statement.Listed
import Polystore.Proofs.Statement.Created
import Polystore.Value.Debug
import Polystore.Proofs.Number.Numeral
import Polystore.Proofs.Number.Shortest
import Polystore.Proofs.Number.Texts
import Polystore.Proofs.Text.Told
import Polystore.Proofs.Text.Plain
import Polystore.Proofs.Text.Escaped
import Polystore.Proofs.Calendar.Displayed
import Polystore.Proofs.Value.Described
import Polystore.Proofs.Value.Debug
import Polystore.Proofs.Rows.Firsts
