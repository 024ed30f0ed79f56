import SchemaMigration.Buffer
import SchemaMigration.Column.Basic
import SchemaMigration.Column.Definition
import SchemaMigration.Column.Type
import SchemaMigration.CommandLine.Bundle
import SchemaMigration.CommandLine.EnvironmentFile
import SchemaMigration.CommandLine.Options
import SchemaMigration.CommandLine.Request
import SchemaMigration.CommandLine.Run
import SchemaMigration.Condition
import SchemaMigration.Connection.Option
import SchemaMigration.Connection.Registry
import SchemaMigration.Decimal.Digits
import SchemaMigration.Decimal.Layout
import SchemaMigration.Decimal.Reader
import SchemaMigration.Dict
import SchemaMigration.Error
import SchemaMigration.Expression
import SchemaMigration.Files.Bundle
import SchemaMigration.Files.Path
import SchemaMigration.Files.Store
import SchemaMigration.Files.Tree
import SchemaMigration.FormEncoding
import SchemaMigration.Identifier
import SchemaMigration.ItemList
import SchemaMigration.Json.Basic
import SchemaMigration.Json.Number
import SchemaMigration.Json.Printer
import SchemaMigration.Json.Reader
import SchemaMigration.Main
import SchemaMigration.Migration.Adapter
import SchemaMigration.Migration.Driver
import SchemaMigration.Migration.EntryName
import SchemaMigration.Migration.Locator
import SchemaMigration.Migration.Pool
import SchemaMigration.Migration.VersionIndex
import SchemaMigration.Migration.Workspace
import SchemaMigration.Script.Arguments
import SchemaMigration.Script.Evaluation
import SchemaMigration.Script.Operation
import SchemaMigration.Script.Reader
import SchemaMigration.Script.Session
import SchemaMigration.Script.Step
import SchemaMigration.Script.Value
import SchemaMigration.Statement.Basic
import SchemaMigration.Statement.Body
import SchemaMigration.Statement.Row
import SchemaMigration.Statement.Table
import SchemaMigration.Text.Basic
import SchemaMigration.Text.Chars
import SchemaMigration.Text.Hidden
import SchemaMigration.Text.Quoted
import SchemaMigration.Text.Template
import SchemaMigration.Text.Utf8
import SchemaMigration.Text.Word
import SchemaMigration.TypeMap
import SchemaMigration.Value.Basic
import SchemaMigration.Value.Coercion
import SchemaMigration.Value.Json
import SchemaMigration.Proofs.Column.PhysicalType
import SchemaMigration.Proofs.Value.Literal
import SchemaMigration.Proofs.Statement.Lexeme
import SchemaMigration.Proofs.Statement.QuotedNames
import SchemaMigration.Proofs.Statement.Nesting
import SchemaMigration.Proofs.Statement.ValueList
import SchemaMigration.Proofs.Statement.InsertedRows
import SchemaMigration.Proofs.Statement.Placeholders
import SchemaMigration.Proofs.Statement.EmptyCondition
import SchemaMigration.Proofs.Statement.KeyedTables
import SchemaMigration.Proofs.Statement.Conjuncts
import SchemaMigration.Proofs.Statement.Membership
import SchemaMigration.Proofs.Script.Change
import SchemaMigration.Proofs.Script.Confinement
import SchemaMigration.Proofs.Script.EntryTable
import SchemaMigration.Proofs.Script.StatementCalls
import SchemaMigration.Proofs.Script.Mirror
import SchemaMigration.Proofs.Script.HiddenBuffers
import SchemaMigration.Proofs.Migration.SessionRun
import SchemaMigration.Proofs.Migration.Soundness
import SchemaMigration.Proofs.Migration.OutputSeparation
import SchemaMigration.Proofs.Migration.AdapterRun
import SchemaMigration.Proofs.Migration.AdapterStatus
import SchemaMigration.Proofs.Migration.FailedReading
import SchemaMigration.Proofs.Migration.SingleEvaluation
import SchemaMigration.Proofs.Migration.DriverRun
import SchemaMigration.Proofs.Migration.VersionScript
import SchemaMigration.Proofs.Migration.OutputBuffers
import SchemaMigration.Proofs.Migration.Apart
import SchemaMigration.Proofs.Migration.Client
import SchemaMigration.Proofs.Migration.Closing
import SchemaMigration.Proofs.Migration.EntryOwnership
import SchemaMigration.Proofs.Migration.VersionWalk
import SchemaMigration.Proofs.Migration.MirroredReading
import SchemaMigration.Proofs.Migration.Replacement
import SchemaMigration.Proofs.Migration.Rebinding
import SchemaMigration.Proofs.Script.DefaultConnection
import SchemaMigration.Proofs.Migration.ClosedDriver
import SchemaMigration.Proofs.Migration.FailedOpening
import SchemaMigration.Proofs.CommandLine.SameScript
import SchemaMigration.Proofs.Script.TableOrder
import SchemaMigration.Proofs.Statement.NameFilter
import SchemaMigration.Proofs.Statement.NameTemplate
import SchemaMigration.Proofs.Column.SettledDefinition
import SchemaMigration.Proofs.Migration.ListedVersions
import SchemaMigration.Proofs.Column.QuotedComment
import SchemaMigration.Proofs.Statement.BodyOrder
import SchemaMigration.Proofs.Statement.Separators
import SchemaMigration.Proofs.Text.Ends
import SchemaMigration.Proofs.Script.KeyedColumns
import SchemaMigration.Proofs.Script.Border
import SchemaMigration.Proofs.Script.Unfolding
import SchemaMigration.Proofs.Value.NameList
import SchemaMigration.Proofs.Script.NumberedTables
import SchemaMigration.Proofs.Json.ReadBack
import SchemaMigration.Proofs.Value.ItemEnds
import SchemaMigration.Proofs.Value.WrittenList
import SchemaMigration.Proofs.Migration.Binding
import SchemaMigration.Proofs.Connection.Isolation
import SchemaMigration.Proofs.FormEncoding.ReadBack
import SchemaMigration.Proofs.Connection.Properties
import SchemaMigration.Proofs.Migration.LocatorText
import SchemaMigration.Proofs.Migration.SessionRegistration
import SchemaMigration.Proofs.Script.ColumnHandles
import SchemaMigration.Proofs.Script.PositionalArguments
import SchemaMigration.Proofs.Script.UntypedColumns
import SchemaMigration.Proofs.Statement.SharedRegistry
import SchemaMigration.Proofs.Column.Clauses
import SchemaMigration.Proofs.Column.GivenLength
import SchemaMigration.Proofs.Buffer.Families
