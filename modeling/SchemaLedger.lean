import SchemaLedger.ChangeSet.Basic
import SchemaLedger.ChangeSet.Document
import SchemaLedger.ChangeSet.Loader
import SchemaLedger.ChangeSet.Step
import SchemaLedger.CommandLine.Arguments
import SchemaLedger.CommandLine.Invocation
import SchemaLedger.CommandLine.Session
import SchemaLedger.Database.Action
import SchemaLedger.Database.Address
import SchemaLedger.Database.Connection
import SchemaLedger.Database.Ledger
import SchemaLedger.Database.Memory
import SchemaLedger.Files.Path
import SchemaLedger.Files.Snapshot
import SchemaLedger.Files.Tree
import SchemaLedger.Grammar.Basic
import SchemaLedger.Grammar.MySql
import SchemaLedger.Grammar.MySql.AlterColumn
import SchemaLedger.Grammar.MySql.Modifier
import SchemaLedger.Grammar.Naming
import SchemaLedger.Grammar.Plain
import SchemaLedger.Json.Basic
import SchemaLedger.Json.Decode
import SchemaLedger.Json.Fields
import SchemaLedger.Json.Numeral
import SchemaLedger.Json.Reader
import SchemaLedger.Json.Writer
import SchemaLedger.Ledger.Record
import SchemaLedger.Ledger.Timestamp
import SchemaLedger.Main
import SchemaLedger.Migration.Config
import SchemaLedger.Migration.Error
import SchemaLedger.Migration.Migrator
import SchemaLedger.Migration.Pending
import SchemaLedger.Migration.Preview
import SchemaLedger.Number.Binary64
import SchemaLedger.Number.Decimal
import SchemaLedger.Number.Digits
import SchemaLedger.Number.Power
import SchemaLedger.Proofs.Text.Beginning
import SchemaLedger.Schema.Blueprint
import SchemaLedger.Schema.ChangeQueue
import SchemaLedger.Schema.Column
import SchemaLedger.Schema.ColumnType
import SchemaLedger.Schema.Command
import SchemaLedger.Schema.Document
import SchemaLedger.Schema.Error
import SchemaLedger.Schema.Settings
import SchemaLedger.Sql.Quoted
import SchemaLedger.Sql.Value
import SchemaLedger.Text.Blank
import SchemaLedger.Text.CombiningClass
import SchemaLedger.Text.Composition
import SchemaLedger.Text.Joining
import SchemaLedger.Text.Mark
import SchemaLedger.Text.NormalForm
import SchemaLedger.Text.Orientation
import SchemaLedger.Text.Printable
import SchemaLedger.Text.Quoted
import SchemaLedger.Text.Ranges
import SchemaLedger.Text.Search
import SchemaLedger.Text.Utf8
import SchemaLedger.Url.Basic
import SchemaLedger.Url.Domain.Label
import SchemaLedger.Url.Domain.Mapping
import SchemaLedger.Url.Domain.Name
import SchemaLedger.Url.Domain.Punycode
import SchemaLedger.Url.Host
import SchemaLedger.Url.Percent
import SchemaLedger.Proofs.Database.Memory
import SchemaLedger.Proofs.Database.Ledger
import SchemaLedger.Proofs.Migration.Discovery
import SchemaLedger.Proofs.Migration.Planning
import SchemaLedger.Proofs.Migration.Trace
import SchemaLedger.Proofs.Migration.Progress
import SchemaLedger.Proofs.Migration.Convergence
import SchemaLedger.Proofs.Grammar.FirstWord
import SchemaLedger.Proofs.Migration.Bookkeeping
import SchemaLedger.Proofs.Migration.Selection
import SchemaLedger.Proofs.Migration.Preview
import SchemaLedger.Proofs.Database.Execution
import SchemaLedger.Proofs.Grammar.ColumnChange
import SchemaLedger.Proofs.Sql.Reading
import SchemaLedger.Proofs.Sql.StringLiteral
import SchemaLedger.Proofs.Grammar.ColumnCalls
import SchemaLedger.Proofs.Schema.RequestedKeys
import SchemaLedger.Proofs.Grammar.Compilation
import SchemaLedger.Proofs.Grammar.ModifierTexts
import SchemaLedger.Proofs.Grammar.ColumnLists
import SchemaLedger.Proofs.Grammar.CommandStatements
import SchemaLedger.Proofs.Grammar.Identifiers
import SchemaLedger.Proofs.Grammar.TablePrefix
import SchemaLedger.Proofs.Grammar.StatementEnds
import SchemaLedger.Proofs.Grammar.KeyColumns
import SchemaLedger.Proofs.Json.Members
import SchemaLedger.Proofs.ChangeSet.Places
import SchemaLedger.Proofs.ChangeSet.EditedRecords
import SchemaLedger.Proofs.ChangeSet.EditedColumns
import SchemaLedger.Proofs.ChangeSet.Rearrangement
import SchemaLedger.Proofs.Grammar.Refusals
import SchemaLedger.Proofs.Sql.QuotedRows
import SchemaLedger.Proofs.Grammar.QuotedValues
import SchemaLedger.Proofs.Grammar.SurvivingTexts
import SchemaLedger.Proofs.Grammar.WrappedIdentifiers
import SchemaLedger.Proofs.Grammar.TableSpellings
import SchemaLedger.Proofs.Json.RecordParts
import SchemaLedger.Proofs.Schema.IndexNames
import SchemaLedger.Proofs.Schema.QueuedChanges
import SchemaLedger.Proofs.ChangeSet.WrittenSteps
import SchemaLedger.Proofs.ChangeSet.StepStatements
import SchemaLedger.Proofs.Database.History
import SchemaLedger.Proofs.Migration.SkippedRecords
import SchemaLedger.Proofs.Text.Pieces
import SchemaLedger.Proofs.Files.Components
import SchemaLedger.Proofs.Migration.ReportedPaths
import SchemaLedger.Proofs.Json.ReplacedMembers
import SchemaLedger.Proofs.Json.WrittenLists
import SchemaLedger.Proofs.Text.Trimming
import SchemaLedger.Proofs.Migration.ConfiguredPaths
import SchemaLedger.Proofs.Json.WrittenIntegers
import SchemaLedger.Proofs.Number.ShortestDigits
import SchemaLedger.Proofs.Schema.IntegerDefaults
import SchemaLedger.Proofs.Database.Within
import SchemaLedger.Proofs.Database.Exchanges
import SchemaLedger.Proofs.Database.TableCreation
import SchemaLedger.Proofs.Migration.LedgerTable
import SchemaLedger.Proofs.Database.QueueHistories
