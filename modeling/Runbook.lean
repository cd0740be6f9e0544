import Runbook.Association
import Runbook.Channel
import Runbook.Cli
import Runbook.Command
import Runbook.Document.Build
import Runbook.Document.Fault
import Runbook.Document.Node
import Runbook.Document.Scalar
import Runbook.Document.Token
import Runbook.Document.Value
import Runbook.Engine
import Runbook.Expression.Evaluate
import Runbook.Expression.Function
import Runbook.Expression.Literal
import Runbook.Expression.Parser
import Runbook.Expression.Quantity
import Runbook.Expression.Syntax
import Runbook.Expression.Token
import Runbook.Fault
import Runbook.Files.Changes
import Runbook.Files.Error
import Runbook.Files.Listing
import Runbook.Files.Path
import Runbook.Files.Tree
import Runbook.Filter
import Runbook.Host.Format
import Runbook.Host.Machine
import Runbook.Host.Output
import Runbook.Host.Program
import Runbook.Host.Shell.Arithmetic
import Runbook.Host.Shell.Interpreter
import Runbook.Host.Shell.Lexer
import Runbook.Host.Shell.Parser
import Runbook.Host.Shell.Syntax
import Runbook.Host.Tools
import Runbook.Log
import Runbook.Logged
import Runbook.Logging
import Runbook.Main
import Runbook.Number.Arithmetic
import Runbook.Number.Double
import Runbook.Number.Elementary
import Runbook.Number.Notation
import Runbook.Number.Power
import Runbook.Number.Reading
import Runbook.Number.Shortest
import Runbook.Options.Grammar
import Runbook.Options.Layout
import Runbook.Options.Reading
import Runbook.Pattern.Error
import Runbook.Pattern.Match
import Runbook.Pattern.Parser
import Runbook.Pattern.Search
import Runbook.Pattern.Source
import Runbook.Pattern.Syntax
import Runbook.Pattern.Template
import Runbook.Perform
import Runbook.Profile
import Runbook.Profiles
import Runbook.Resolution
import Runbook.Run
import Runbook.Script.Layout
import Runbook.Script.LogicalLine
import Runbook.Script.Outline
import Runbook.Script.Render
import Runbook.ScriptError
import Runbook.Settings
import Runbook.Supervision
import Runbook.Text.Blank
import Runbook.Text.CharacterName
import Runbook.Text.CharacterSet
import Runbook.Text.Compatibility
import Runbook.Text.Controls
import Runbook.Text.DecimalDigit
import Runbook.Text.Identifier
import Runbook.Text.LetterCase
import Runbook.Text.Lines
import Runbook.Text.Printable
import Runbook.Text.Quoted
import Runbook.Text.Substitute
import Runbook.Text.Utf8
import Runbook.Text.WordCharacter
import Runbook.TextFile
import Runbook.Tokens
import Runbook.Variables
import Runbook.Proofs.Script.Continuation
import Runbook.Proofs.Script.Placing
import Runbook.Proofs.Script.Nesting
import Runbook.Proofs.Script.Rendering
import Runbook.Proofs.Script.RoundTrip
import Runbook.Proofs.Run.Outcome
import Runbook.Proofs.Run.Trace
import Runbook.Proofs.Run.Calm
import Runbook.Proofs.Run.Commands
import Runbook.Proofs.Engine.Parts
import Runbook.Proofs.Engine.Reporting
import Runbook.Proofs.Engine.Stopping
import Runbook.Proofs.Variables.Settling
import Runbook.Proofs.Variables.Rewriting
import Runbook.Proofs.Variables.Expanding
import Runbook.Proofs.Engine.Unrolling
import Runbook.Proofs.Engine.Counting
import Runbook.Proofs.Engine.Absorbing
import Runbook.Proofs.Engine.Succession
import Runbook.Proofs.Engine.Endings
import Runbook.Proofs.Options.Assigned
import Runbook.Proofs.Variables.Inserting
import Runbook.Proofs.Script.Misfits
import Runbook.Proofs.Script.Grouping
import Runbook.Proofs.Tokens.Joining
import Runbook.Proofs.Engine.Echoing
import Runbook.Proofs.Engine.Verbosity
import Runbook.Proofs.Engine.GeneralLines
import Runbook.Proofs.Engine.Isolation
import Runbook.Proofs.Engine.Storing
import Runbook.Proofs.Results
import Runbook.Proofs.Files.Writing
import Runbook.Proofs.Filter.Passing
import Runbook.Proofs.Filter.Copying
import Runbook.Proofs.Run.Pumps
import Runbook.Proofs.Expression.Checking
import Runbook.Proofs.Expression.WholeNumbers
import Runbook.Proofs.Number.Comparing
import Runbook.Proofs.Number.Dividing
import Runbook.Proofs.Number.Rounding
import Runbook.Proofs.Number.Whole
import Runbook.Proofs.Document.Fields
import Runbook.Proofs.Settings.Layers
import Runbook.Proofs.Variables.HostReferences
import Runbook.Proofs.Files.Paths
import Runbook.Proofs.Files.Descending
import Runbook.Proofs.Profiles.Lookup
import Runbook.Proofs.Profiles.Listing
import Runbook.Proofs.Profiles.Describing
import Runbook.Proofs.Profiles.Passing
import Runbook.Proofs.Pattern.OneCharacter
import Runbook.Proofs.Pattern.Refusing
import Runbook.Proofs.Engine.Rejoining
import Runbook.Proofs.Resolution.Checks
import Runbook.Proofs.Resolution.Failing
import Runbook.Proofs.Engine.Escaping
import Runbook.Proofs.Files.Normal
import Runbook.Proofs.Files.Listing
import Runbook.Proofs.Run.Listing
import Runbook.Proofs.Script.Loading
import Runbook.Proofs.Variables.Deepening
import Runbook.Proofs.Options.Leading
import Runbook.Proofs.Cli.Arguments
import Runbook.Proofs.Script.WellFormed
