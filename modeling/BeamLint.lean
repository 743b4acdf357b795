import BeamLint.Command.Arguments
import BeamLint.Command.FileTree
import BeamLint.Command.Invocation
import BeamLint.Command.Outcome
import BeamLint.Command.Path
import BeamLint.Config
import BeamLint.Console.Color
import BeamLint.Console.Emoji
import BeamLint.Console.Emoji.Table
import BeamLint.Console.Escape
import BeamLint.Console.Handler
import BeamLint.Console.Literal
import BeamLint.Console.Literal.Token
import BeamLint.Console.Mark
import BeamLint.Console.Page
import BeamLint.Console.Style
import BeamLint.Console.Table
import BeamLint.Console.Width
import BeamLint.Console.Width.Table
import BeamLint.Console.Wrap
import BeamLint.Diagnostic
import BeamLint.Environment
import BeamLint.Json.Basic
import BeamLint.Json.Printer
import BeamLint.Layout
import BeamLint.Location
import BeamLint.Log.Event
import BeamLint.Log.Setup
import BeamLint.Log.Sink
import BeamLint.Main
import BeamLint.Markup.Scan
import BeamLint.Naming
import BeamLint.Order
import BeamLint.Proofs.Markup.Scan
import BeamLint.Proofs.Order
import BeamLint.Proofs.Report.NormalForm
import BeamLint.Proofs.Report.References
import BeamLint.Proofs.Source.Locations
import BeamLint.Proofs.Source.References
import BeamLint.Proofs.Stylesheet.Scan
import BeamLint.Proofs.Stylesheet.Segment
import BeamLint.Proofs.Text.Place
import BeamLint.Proofs.Text.Position
import BeamLint.Proofs.Text.Search
import BeamLint.Proofs.Value.References
import BeamLint.Proofs.Variable.Arcs
import BeamLint.Proofs.Variable.CycleRule
import BeamLint.Proofs.Variable.CycleSearch
import BeamLint.Proofs.Variable.Cycles
import BeamLint.Proofs.Variable.Findings
import BeamLint.Proofs.Variable.FirstPath
import BeamLint.Proofs.Variable.References
import BeamLint.Report.Basic
import BeamLint.Report.Json
import BeamLint.Report.Markdown
import BeamLint.Report.Text
import BeamLint.Rule
import BeamLint.Run
import BeamLint.Selector.Basic
import BeamLint.Selector.Parse
import BeamLint.Service.Path
import BeamLint.Service.Request
import BeamLint.Service.Response
import BeamLint.Source.Content
import BeamLint.Source.Facts
import BeamLint.Source.Kind
import BeamLint.Startup
import BeamLint.Stylesheet.Scan
import BeamLint.Stylesheet.Segment
import BeamLint.Text.Blank
import BeamLint.Text.Case
import BeamLint.Text.Case.Cased
import BeamLint.Text.Case.Lower
import BeamLint.Text.Case.Table
import BeamLint.Text.Case.Title
import BeamLint.Text.Case.Upper
import BeamLint.Text.Comment
import BeamLint.Text.Digit
import BeamLint.Text.Glob
import BeamLint.Text.Integer
import BeamLint.Text.Letter
import BeamLint.Text.Position
import BeamLint.Text.Printable
import BeamLint.Text.Quote
import BeamLint.Text.Quoted
import BeamLint.Text.Ranges
import BeamLint.Text.Search
import BeamLint.Text.Span
import BeamLint.Text.Word
import BeamLint.Text.Words
import BeamLint.Value.Basic
import BeamLint.Value.Color
import BeamLint.Value.Parens
import BeamLint.Variable.Basic
import BeamLint.Variable.Cycle
import BeamLint.Variable.Graph
import BeamLint.Variable.Landing
import BeamLint.Variable.TierRules
import BeamLint.Proofs.Selector.Grammar
import BeamLint.Proofs.Report.Aggregate
import BeamLint.Proofs.Variable.Landing
import BeamLint.Proofs.Variable.Reordered
import BeamLint.Proofs.Variable.TierOrder
import BeamLint.Proofs.Report.SourceOrder
import BeamLint.Proofs.Text.Title
import BeamLint.Proofs.Text.Trim
import BeamLint.Proofs.Value.Grammar
import BeamLint.Proofs.Value.Shape
import BeamLint.Proofs.Value.Roundtrip
import BeamLint.Proofs.Run.Cancellation
import BeamLint.Proofs.Command.Overlap
import BeamLint.Proofs.Report.Repetition
import BeamLint.Proofs.Report.Isolation
import BeamLint.Proofs.Stylesheet.Grammar
import BeamLint.Proofs.Stylesheet.Roundtrip
import BeamLint.Proofs.Json.Reader
import BeamLint.Proofs.Json.Roundtrip
import BeamLint.Proofs.Variable.Builder
import BeamLint.Proofs.Report.Json
import BeamLint.Proofs.Run.Guarded
import BeamLint.Proofs.Run.Totality
import BeamLint.Proofs.Text.Utf8
import BeamLint.Proofs.Source.Encoding
import BeamLint.Proofs.Variable.LandingOrder
import BeamLint.Proofs.Variable.FallbackRule
import BeamLint.Proofs.Report.Views
import BeamLint.Proofs.Value.Nesting
import BeamLint.Proofs.Value.Stretch
import BeamLint.Proofs.Value.Around
import BeamLint.Proofs.Value.Quote
import BeamLint.Proofs.Value.Strings
import BeamLint.Proofs.Text.Blanking
import BeamLint.Proofs.Stylesheet.Comments
import BeamLint.Proofs.Stylesheet.Sequence
import BeamLint.Proofs.Stylesheet.Prelude
import BeamLint.Proofs.Stylesheet.Leftover
import BeamLint.Proofs.Stylesheet.Strings
import BeamLint.Proofs.Markup.StyleElements
import BeamLint.Proofs.Selector.SnakeCase
import BeamLint.Proofs.Selector.Parts
import BeamLint.Proofs.Selector.Renaming
import BeamLint.Proofs.Value.Matching
import BeamLint.Proofs.Value.Calls
import BeamLint.Proofs.Report.Conflicts
import BeamLint.Proofs.Text.LineIndex
import BeamLint.Proofs.Text.PositionOrder
import BeamLint.Proofs.Variable.LandingTurns
import BeamLint.Proofs.Value.ParenState
import BeamLint.Proofs.Value.WellNested
import BeamLint.Proofs.Log.Setup
