import TableThrift.Ddl.Table
import TableThrift.Demonstration
import TableThrift.Main
import TableThrift.Proofs.Conversion.Layout
import TableThrift.Proofs.Conversion.Outcome
import TableThrift.Proofs.Conversion.Summary
import TableThrift.Proofs.Conversion.Table
import TableThrift.Proofs.Conversion.FieldNames
import TableThrift.Proofs.Ddl.Clause
import TableThrift.Proofs.Text.Case
import TableThrift.Proofs.Text.Enclosed
import TableThrift.Struct.Reading
import TableThrift.Proofs.Struct.Reading
import TableThrift.Proofs.Conversion.LineEnds
import TableThrift.Proofs.FileSystem.Walk
import TableThrift.Proofs.Saving.Steps
import TableThrift.Proofs.Command.Stages
import TableThrift.Proofs.Command.SavedFile
import TableThrift.Proofs.FileSystem.Paths
import TableThrift.Proofs.FileSystem.Directories
import TableThrift.Proofs.Saving.Interruption
import TableThrift.Proofs.Saving.Result
import TableThrift.Saving.Together
import TableThrift.Proofs.Saving.Together
import TableThrift.Proofs.Command.Confinement
import TableThrift.Json.Grammar
import TableThrift.Options.Spelling
import TableThrift.Options.Reading
import TableThrift.Proofs.Options.Members
import TableThrift.Readers.Standard
import TableThrift.Proofs.Readers.Json.Strings
import TableThrift.Proofs.Readers.Json.Values
import TableThrift.Proofs.Readers.Json.Options
import TableThrift.Text.Pattern
import TableThrift.Proofs.Text.Pattern
import TableThrift.Proofs.Ddl.Captures
import TableThrift.Proofs.Ddl.Column
import TableThrift.Proofs.Text.CamelCase
import TableThrift.Proofs.Text.SnakeCase
import TableThrift.Proofs.Conversion.Columns
import TableThrift.Proofs.Conversion.Spelling
import TableThrift.Proofs.Conversion.StructName
import TableThrift.Proofs.Conversion.Ignored
import TableThrift.Proofs.Struct.History
import TableThrift.Proofs.Readers.Yaml.Words
import TableThrift.Yaml.Printer
import TableThrift.Proofs.Readers.Yaml.Tokens
import TableThrift.Proofs.Readers.Yaml.Nodes
import TableThrift.Proofs.Readers.Yaml.Options
import TableThrift.Proofs.Options.Loading
