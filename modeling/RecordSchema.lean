import RecordSchema.Text.Identifier
import RecordSchema.Text.Shown
import RecordSchema.Statement
import RecordSchema.Dialect
import RecordSchema.Record
import RecordSchema.Registry
import RecordSchema.Relation
import RecordSchema.ColumnTypes
import RecordSchema.Naming
import RecordSchema.Json.Fault
import RecordSchema.Json.Quoted
import RecordSchema.Json.Number
import RecordSchema.Json.Value
import RecordSchema.Error
import RecordSchema.Config
import RecordSchema.Config.Json
import RecordSchema.Event
import RecordSchema.Role
import RecordSchema.Pass
import RecordSchema.Declaration.Lexer
import RecordSchema.Declaration.Grammar
import RecordSchema.Declaration.Definition
import RecordSchema.Declaration.Metadata
import RecordSchema.Proofs.Pass.Reading
import RecordSchema.Proofs.Pass.Schema
import RecordSchema.Proofs.Pass.Failure
import RecordSchema.Proofs.Registry.History
import RecordSchema.Proofs.Registry.Closure
import RecordSchema.Proofs.Pass.Batch
import RecordSchema.Proofs.Pass.Environment
import RecordSchema.Proofs.Pass.Inheritance
import RecordSchema.Proofs.Pass.Visibility
import RecordSchema.Proofs.Template.Filling
import RecordSchema.Proofs.Pass.Dialects
import RecordSchema.Proofs.Registry.Extension
import RecordSchema.Proofs.Pass.Log
import RecordSchema.Proofs.Result
import RecordSchema.Proofs.Text.Identifier
import RecordSchema.Proofs.Pass.Names
import RecordSchema.Proofs.Config.RoundTrip
import RecordSchema.Proofs.Json.Tokens
import RecordSchema.Proofs.Config.Format
import RecordSchema.Proofs.Declaration.Entries
import RecordSchema.Proofs.Declaration.Definitions
import RecordSchema.Proofs.Declaration.Literal
import RecordSchema.Proofs.Declaration.Metadata
import RecordSchema.Proofs.Record.Line
import RecordSchema.Proofs.Record.Inheritance
import RecordSchema.Proofs.Pass.JoinNames
import RecordSchema.Proofs.Pass.ScalarFields
import RecordSchema.Proofs.Statement.Parts
import RecordSchema.Proofs.Pass.Prefix
import RecordSchema.Proofs.Declaration.Gathered
import RecordSchema.Proofs.Declaration.ForeignFields
import RecordSchema.Proofs.Declaration.Depth
import RecordSchema.Proofs.Declaration.Settled
import RecordSchema.Proofs.Declaration.Arguments
import RecordSchema.Proofs.Declaration.Items
import RecordSchema.Proofs.Declaration.Layout
import RecordSchema.Proofs.Relation.Queue
