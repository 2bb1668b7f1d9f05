import Concord.Backend
import Concord.Binary64.Basic
import Concord.Binary64.Decimal
import Concord.Binary64.Shortest
import Concord.Case.Basic
import Concord.Case.Key
import Concord.CommandLine.Arguments
import Concord.CommandLine.Program
import Concord.Config.Basic
import Concord.Config.File
import Concord.Document.Content
import Concord.Document.Reading
import Concord.Expectation
import Concord.FileTree
import Concord.Host.Arithmetic
import Concord.Host.Expansion
import Concord.Host.Pattern
import Concord.Host.Process
import Concord.Host.Regex
import Concord.Host.Script.Basic
import Concord.Host.Script.Reader
import Concord.Host.Script.Token
import Concord.Host.Session
import Concord.Host.Shell
import Concord.Host.Shell.Builtin
import Concord.Host.Shell.Control
import Concord.Host.Shell.Redirection
import Concord.Host.Shell.Start
import Concord.Host.Signal
import Concord.Host.Tool
import Concord.Host.Tool.Basic
import Concord.Host.Tool.Condition
import Concord.Host.Tool.Files
import Concord.Host.Tool.Filter
import Concord.Host.Tool.Format
import Concord.Json.Basic
import Concord.Json.Reader
import Concord.Main
import Concord.Matrix.Basic
import Concord.Matrix.Builtin
import Concord.Numeral
import Concord.Outcome
import Concord.Path
import Concord.Proofs.Binary64.Numeral
import Concord.Proofs.Binary64.Rounding
import Concord.Proofs.Binary64.Shortest
import Concord.Proofs.Binary64.Whole
import Concord.Proofs.Case.Identifier
import Concord.Proofs.Combinations
import Concord.Proofs.Combinations.Numbering
import Concord.Proofs.Execution
import Concord.Proofs.Expectation
import Concord.Proofs.FileTree
import Concord.Proofs.FirstFit
import Concord.Proofs.Matrix
import Concord.Proofs.Matrix.Declarations
import Concord.Proofs.Outcome
import Concord.Proofs.Registry
import Concord.Proofs.Report
import Concord.Proofs.Run.Attempts
import Concord.Proofs.Run.Case
import Concord.Proofs.Run.Distribution
import Concord.Proofs.Run.Listing
import Concord.Proofs.Run.Preflight
import Concord.Proofs.Run.Registration
import Concord.Proofs.Run.Suite
import Concord.Proofs.Run.Workers
import Concord.Proofs.Suite.Acceptance
import Concord.Proofs.Suite.Declaration
import Concord.Proofs.Suite.Discovery
import Concord.Proofs.Text.Blank
import Concord.Proofs.Text.Lines
import Concord.Proofs.Text.SingleLine
import Concord.Proofs.Value.Address
import Concord.Proofs.Value.Agreement
import Concord.Proofs.Value.Alphabet
import Concord.Proofs.Value.Branches
import Concord.Proofs.Value.Children
import Concord.Proofs.Value.Complex
import Concord.Proofs.Value.Covering
import Concord.Proofs.Value.Depth
import Concord.Proofs.Value.Equivalence
import Concord.Proofs.Value.Exact
import Concord.Proofs.Value.Integers
import Concord.Proofs.Value.Literal
import Concord.Proofs.Value.Number
import Concord.Proofs.Value.Progress
import Concord.Proofs.Value.Quoted
import Concord.Proofs.Value.Reading
import Concord.Proofs.Value.Renderings
import Concord.Proofs.Value.Reordering
import Concord.Proofs.Value.RoundTrip
import Concord.Proofs.Value.Safety
import Concord.Proofs.Value.Written
import Concord.Proofs.Verdict
import Concord.Report
import Concord.Run.Case
import Concord.Run.Configured
import Concord.Run.Suite
import Concord.Run.Workers
import Concord.Snippet
import Concord.Source.Expression
import Concord.Source.Grammar
import Concord.Source.Token
import Concord.Suite.Basic
import Concord.Suite.Discovery
import Concord.Suite.Error
import Concord.Suite.File
import Concord.Text.Blank
import Concord.Text.Letter
import Concord.Text.Lines
import Concord.Text.Lossy
import Concord.Text.Printable
import Concord.Value.Address
import Concord.Value.Basic
import Concord.Value.Describe
import Concord.Value.Equivalent
import Concord.Value.Json
import Concord.Value.Literal
import Concord.Value.Reader
import Concord.Verdict
import Concord.Yaml.Cursor
import Concord.Yaml.Event
import Concord.Yaml.Node
import Concord.Yaml.Scalar
import Concord.Yaml.Token
