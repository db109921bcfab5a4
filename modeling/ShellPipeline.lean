import ShellPipeline.Command
import ShellPipeline.Commandline
import ShellPipeline.Display
import ShellPipeline.Document.Calendar
import ShellPipeline.Document.Fault
import ShellPipeline.Document.Graph
import ShellPipeline.Document.MemberOrder
import ShellPipeline.Document.Toml
import ShellPipeline.Document.Toml.Scalar
import ShellPipeline.Document.Toml.Statement
import ShellPipeline.Document.Toml.Table
import ShellPipeline.Document.Value
import ShellPipeline.Document.Wording
import ShellPipeline.Document.Yaml
import ShellPipeline.Document.Yaml.Cursor
import ShellPipeline.Document.Yaml.Merge
import ShellPipeline.Document.Yaml.Node
import ShellPipeline.Document.Yaml.Objects
import ShellPipeline.Document.Yaml.Scalar
import ShellPipeline.Document.Yaml.ScalarValue
import ShellPipeline.Document.Yaml.Tag
import ShellPipeline.Document.Yaml.Token
import ShellPipeline.Document.Yaml.TokenList
import ShellPipeline.Effect
import ShellPipeline.Environment
import ShellPipeline.Fault
import ShellPipeline.FileTree
import ShellPipeline.Journal
import ShellPipeline.Journal.Rotation
import ShellPipeline.Journal.World
import ShellPipeline.Limits
import ShellPipeline.Main
import ShellPipeline.Number.Binary64
import ShellPipeline.Number.Layout
import ShellPipeline.Number.Shortest
import ShellPipeline.Options
import ShellPipeline.Path
import ShellPipeline.Pipeline
import ShellPipeline.Program
import ShellPipeline.Proofs.Accounting
import ShellPipeline.Proofs.Adjacency
import ShellPipeline.Proofs.Assembly
import ShellPipeline.Proofs.Classification
import ShellPipeline.Proofs.Composition
import ShellPipeline.Proofs.Continuation
import ShellPipeline.Proofs.CopyFailure
import ShellPipeline.Proofs.CopyPlaces
import ShellPipeline.Proofs.Cutoff
import ShellPipeline.Proofs.Decomposition
import ShellPipeline.Proofs.Delivery
import ShellPipeline.Proofs.Dialogue
import ShellPipeline.Proofs.Echoes
import ShellPipeline.Proofs.Explanation
import ShellPipeline.Proofs.FirstCandidate
import ShellPipeline.Proofs.Headings
import ShellPipeline.Proofs.JournalDirectory
import ShellPipeline.Proofs.KeptWords
import ShellPipeline.Proofs.LastRedirection
import ShellPipeline.Proofs.LineBreaks
import ShellPipeline.Proofs.LineReport
import ShellPipeline.Proofs.Lines
import ShellPipeline.Proofs.Loading
import ShellPipeline.Proofs.LookUp
import ShellPipeline.Proofs.Outcomes
import ShellPipeline.Proofs.PathSpelling
import ShellPipeline.Proofs.Pieces
import ShellPipeline.Proofs.Places
import ShellPipeline.Proofs.Printable
import ShellPipeline.Proofs.Printout
import ShellPipeline.Proofs.Reach
import ShellPipeline.Proofs.Rearrangement
import ShellPipeline.Proofs.Records
import ShellPipeline.Proofs.Rendering
import ShellPipeline.Proofs.Respelling
import ShellPipeline.Proofs.Rotation
import ShellPipeline.Proofs.Segments
import ShellPipeline.Proofs.Spacing
import ShellPipeline.Proofs.Spelling
import ShellPipeline.Proofs.Streams
import ShellPipeline.Proofs.Stripping
import ShellPipeline.Proofs.TopLevel
import ShellPipeline.Proofs.Unquoting
import ShellPipeline.Proofs.Verdict
import ShellPipeline.Proofs.Words
import ShellPipeline.Proofs.Writing
import ShellPipeline.Record
import ShellPipeline.Redirect
import ShellPipeline.Repl
import ShellPipeline.Report
import ShellPipeline.Settings
import ShellPipeline.Settings.Discovery
import ShellPipeline.Settings.Load
import ShellPipeline.Settings.Reading
import ShellPipeline.Subcommand
import ShellPipeline.Text.Blank
import ShellPipeline.Text.CaseRun
import ShellPipeline.Text.ControlSequence
import ShellPipeline.Text.DecimalDigit
import ShellPipeline.Text.Lines
import ShellPipeline.Text.LowerCase
import ShellPipeline.Text.Printable
import ShellPipeline.Text.Quoted
import ShellPipeline.Text.Slice
import ShellPipeline.Text.UpperCase
import ShellPipeline.Text.Words
import ShellPipeline.Token
import ShellPipeline.Tokens
import ShellPipeline.Trace
