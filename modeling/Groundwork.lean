import Groundwork.Anchor
import Groundwork.Assignment
import Groundwork.Bits
import Groundwork.CommandLine.Basic
import Groundwork.CommandLine.Grammar
import Groundwork.CommandLine.Invocation
import Groundwork.Datum
import Groundwork.Decimal.Fraction
import Groundwork.Decimal.Places
import Groundwork.Decimal.Shortest
import Groundwork.Decode.Basic
import Groundwork.Decode.Pipeline
import Groundwork.Dictionary
import Groundwork.Edit
import Groundwork.Execution.Basic
import Groundwork.Execution.Capture
import Groundwork.Failure
import Groundwork.Files.Action
import Groundwork.Files.Basic
import Groundwork.Git.Attribute
import Groundwork.Git.Configuration
import Groundwork.Git.Fault
import Groundwork.Git.Ignore
import Groundwork.Git.LineEnds
import Groundwork.Git.Message
import Groundwork.Git.Move
import Groundwork.Git.PathPattern
import Groundwork.Git.Repository
import Groundwork.Git.Similarity
import Groundwork.Git.Status
import Groundwork.Git.WorkTree
import Groundwork.Json.Lexeme
import Groundwork.Json.Number
import Groundwork.Json.Printer
import Groundwork.Json.Reader
import Groundwork.Json.Typed
import Groundwork.Main
import Groundwork.Path
import Groundwork.Pattern.Basic
import Groundwork.Pattern.Class
import Groundwork.Pattern.Expansion
import Groundwork.Pattern.Node
import Groundwork.Pattern.Program
import Groundwork.Pattern.Reader
import Groundwork.Pattern.Search
import Groundwork.Pattern.Size
import Groundwork.Pipeline.Basic
import Groundwork.Pipeline.Definition
import Groundwork.Pipeline.Flaw
import Groundwork.Proofs.Actions
import Groundwork.Proofs.CommandLine.Apply
import Groundwork.Proofs.CommandLine.Codes
import Groundwork.Proofs.CommandLine.Status
import Groundwork.Proofs.Edit.Insertion
import Groundwork.Proofs.Files.Directories
import Groundwork.Proofs.Files.Likeness
import Groundwork.Proofs.Files.Place
import Groundwork.Proofs.Files.Sparing
import Groundwork.Proofs.Files.Walk
import Groundwork.Proofs.Git.WorkTree
import Groundwork.Proofs.Path
import Groundwork.Proofs.Run.Composition
import Groundwork.Proofs.Run.Course
import Groundwork.Proofs.Run.Faults
import Groundwork.Proofs.Run.History
import Groundwork.Proofs.Run.Prediction
import Groundwork.Proofs.Run.Recording
import Groundwork.Proofs.Run.Refusal
import Groundwork.Proofs.Run.Rerun
import Groundwork.Proofs.Run.Resumption
import Groundwork.Proofs.Run.Setting
import Groundwork.Proofs.Run.Staging
import Groundwork.Proofs.Run.Undoing
import Groundwork.Proofs.StateDirectory
import Groundwork.Proofs.RunState.Document
import Groundwork.Proofs.RunState.Store
import Groundwork.Proofs.Text.Occurrence
import Groundwork.Proofs.Text.Lines
import Groundwork.Proofs.Workspace.Atomicity
import Groundwork.Proofs.Workspace.Commit
import Groundwork.Proofs.Workspace.Locality
import Groundwork.Proofs.Workspace.Reading
import Groundwork.Proofs.Workspace.Ready
import Groundwork.Proofs.Workspace.Rehearsal
import Groundwork.Proofs.Workspace.Calls
import Groundwork.Proofs.Workspace.Target
import Groundwork.Run.Basic
import Groundwork.Run.Rehearsal
import Groundwork.Run.Scene
import Groundwork.Run.Source
import Groundwork.Run.Staging
import Groundwork.RunFault
import Groundwork.RunState.Basic
import Groundwork.RunState.Document
import Groundwork.RunState.Store
import Groundwork.Settings
import Groundwork.Shell.Arithmetic
import Groundwork.Shell.Builtin
import Groundwork.Shell.Condition
import Groundwork.Shell.Evaluation
import Groundwork.Shell.Expansion
import Groundwork.Shell.Format
import Groundwork.Shell.Machine
import Groundwork.Shell.Program.Awk
import Groundwork.Shell.Program.Awk.Evaluation
import Groundwork.Shell.Program.Awk.Reader
import Groundwork.Shell.Program.Awk.Run
import Groundwork.Shell.Program.Awk.Script
import Groundwork.Shell.Program.Awk.Table
import Groundwork.Shell.Program.Awk.Token
import Groundwork.Shell.Program.Awk.Value
import Groundwork.Shell.Program.Basic
import Groundwork.Shell.Program.Comparing
import Groundwork.Shell.Program.Copies
import Groundwork.Shell.Program.Dumping
import Groundwork.Shell.Program.Entry
import Groundwork.Shell.Program.Expr
import Groundwork.Shell.Program.Files
import Groundwork.Shell.Program.Find
import Groundwork.Shell.Program.Grep
import Groundwork.Shell.Program.Lines
import Groundwork.Shell.Program.Listing
import Groundwork.Shell.Program.Merging
import Groundwork.Shell.Program.Plain
import Groundwork.Shell.Program.Sed
import Groundwork.Shell.Program.Sed.Command
import Groundwork.Shell.Program.Sed.Reader
import Groundwork.Shell.Program.Sorting
import Groundwork.Shell.Program.Splitting
import Groundwork.Shell.Program.Table
import Groundwork.Shell.Program.Xargs
import Groundwork.Shell.Reader
import Groundwork.Shell.Signal
import Groundwork.Shell.Syntax
import Groundwork.Shell.Token
import Groundwork.StateDirectory
import Groundwork.Template.Argument
import Groundwork.Template.Basic
import Groundwork.Template.Evaluation
import Groundwork.Template.Fault
import Groundwork.Template.Filter
import Groundwork.Template.Format
import Groundwork.Template.Machine
import Groundwork.Template.Node
import Groundwork.Template.Operation
import Groundwork.Template.Reader
import Groundwork.Template.Test
import Groundwork.Template.Token
import Groundwork.Template.Value
import Groundwork.TemplateSource
import Groundwork.Text.Blank
import Groundwork.Text.Conversion
import Groundwork.Text.Difference
import Groundwork.Text.Digest
import Groundwork.Text.Expression
import Groundwork.Text.Glob
import Groundwork.Text.Lines
import Groundwork.Text.NaturalOrder
import Groundwork.Text.Quoted
import Groundwork.Text.Search
import Groundwork.Text.Utf8
import Groundwork.Toml.Lexeme
import Groundwork.Toml.Reader
import Groundwork.Toml.Table
import Groundwork.Unicode.Age
import Groundwork.Unicode.Boundary
import Groundwork.Unicode.CaseFold
import Groundwork.Unicode.CaseMap
import Groundwork.Unicode.Category
import Groundwork.Unicode.CharSet
import Groundwork.Unicode.Letter
import Groundwork.Unicode.Property
import Groundwork.Unicode.Script
import Groundwork.Workspace.Basic
import Groundwork.Workspace.Commit
import Groundwork.Proofs.Edit.Idempotency
import Groundwork.Proofs.Edit.Series
import Groundwork.Proofs.Edit.Splicing
import Groundwork.Proofs.Path.Spelling
import Groundwork.Proofs.RunState.Persistence
import Groundwork.Proofs.Files.Calls
import Groundwork.Proofs.Workspace.Confinement
import Groundwork.Proofs.Run.Confinement
import Groundwork.Proofs.Edit.Substitution
import Groundwork.Proofs.Files.Passage
import Groundwork.Proofs.Run.Folding
import Groundwork.Proofs.Workspace.Mending
import Groundwork.Proofs.Workspace.Recovery
import Groundwork.Proofs.Edit.Outcome
import Groundwork.Proofs.Git.Status
import Groundwork.Proofs.Pipeline.Flaw
import Groundwork.Proofs.Workspace.Reversal
import Groundwork.Proofs.Run.Reversal
import Groundwork.Proofs.Execution.Capture
import Groundwork.Proofs.Assignment
import Groundwork.Proofs.Settings
import Groundwork.Proofs.CommandLine.Options
