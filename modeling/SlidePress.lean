import SlidePress.Block
import SlidePress.Config.Basic
import SlidePress.Config.Load
import SlidePress.Config.Validate
import SlidePress.Decimal.Exact
import SlidePress.Decimal.Fixed
import SlidePress.Decimal.Read
import SlidePress.Decimal.Shortest
import SlidePress.Decimal.Whole
import SlidePress.Deck.Basic
import SlidePress.Deck.Check
import SlidePress.Deck.Compile
import SlidePress.Deck.Document
import SlidePress.Files.Path
import SlidePress.Files.Tree
import SlidePress.Footer.PageLabel
import SlidePress.Footer.Placement
import SlidePress.Inline.CodeSpan
import SlidePress.Inline.Emphasis
import SlidePress.Inline.Escape
import SlidePress.Inline.Markup
import SlidePress.Inline.Nesting
import SlidePress.Json.Basic
import SlidePress.Json.Parser
import SlidePress.Json.Printer
import SlidePress.Log
import SlidePress.Main
import SlidePress.Markdown.File
import SlidePress.Markdown.Line
import SlidePress.Markdown.Reader
import SlidePress.Page.Canvas
import SlidePress.Page.Chrome
import SlidePress.Page.Flow
import SlidePress.Page.Frame
import SlidePress.Page.Pass
import SlidePress.Press.Build
import SlidePress.Press.Library
import SlidePress.Press.TwoPass
import SlidePress.Press.Typeset
import SlidePress.Session.Arguments
import SlidePress.Session.Logger
import SlidePress.Session.Run
import SlidePress.Session.Settings
import SlidePress.Story.Body
import SlidePress.Story.Flowable
import SlidePress.Story.Lines
import SlidePress.Story.ParagraphStyle
import SlidePress.Story.TitlePage
import SlidePress.Style.Basic
import SlidePress.Style.Color
import SlidePress.Style.Font
import SlidePress.Style.Library
import SlidePress.Style.Metrics
import SlidePress.Text.Blank
import SlidePress.Text.Case
import SlidePress.Text.Digit
import SlidePress.Text.Lines
import SlidePress.Text.Printable
import SlidePress.Text.Quoted
import SlidePress.Text.Range
import SlidePress.Text.Word
import SlidePress.Proofs.Deck.Segmentation
import SlidePress.Proofs.Deck.Outline
import SlidePress.Proofs.Markdown.Form
import SlidePress.Proofs.Markdown.Reuse
import SlidePress.Proofs.Text.Lines
import SlidePress.Proofs.Text.Numeral
import SlidePress.Proofs.Inline.CodeSpan
import SlidePress.Proofs.Inline.Emphasis
import SlidePress.Proofs.Inline.WellFormed
import SlidePress.Proofs.Markdown.RoundTrip
import SlidePress.Proofs.Deck.Restatement
import SlidePress.Proofs.Inline.Authored
import SlidePress.Proofs.Markdown.Grammar
import SlidePress.Proofs.Markdown.Heading
import SlidePress.Proofs.Deck.Document
import SlidePress.Proofs.Markdown.Fence
import SlidePress.Proofs.Markdown.Boundary
import SlidePress.Proofs.Markdown.Conservation
import SlidePress.Proofs.Page.Outline
import SlidePress.Proofs.Page.Layout
import SlidePress.Proofs.Page.RunningHeader
import SlidePress.Proofs.Page.Flow
import SlidePress.Proofs.Deck.Continuation
import SlidePress.Proofs.Outcome
import SlidePress.Proofs.Footer.Box
import SlidePress.Proofs.Page.Footers
import SlidePress.Proofs.Press.AllOrNothing
import SlidePress.Proofs.Inline.FontElement
import SlidePress.Proofs.Deck.Consistency
import SlidePress.Proofs.Press.Convergence
import SlidePress.Proofs.Press.Failure
import SlidePress.Proofs.Session.Ending
import SlidePress.Proofs.Markdown.Refusal
import SlidePress.Proofs.Markdown.Verbatim
import SlidePress.Proofs.Inline.Found
import SlidePress.Proofs.Markdown.Trimmed
import SlidePress.Proofs.Inline.Segment
import SlidePress.Proofs.Inline.Flat
import SlidePress.Proofs.Inline.Nested
import SlidePress.Proofs.Inline.Underscore
import SlidePress.Proofs.Inline.Reference
import SlidePress.Proofs.Decimal.Binary
import SlidePress.Proofs.Decimal.Rounded
import SlidePress.Proofs.Config.Accepted
import SlidePress.Proofs.Style.Size
import SlidePress.Proofs.Style.Registry
import SlidePress.Proofs.Style.Resolved
import SlidePress.Proofs.Press.Measured
import SlidePress.Proofs.Json.Refusal
import SlidePress.Proofs.Config.Loading
import SlidePress.Proofs.Config.Override
import SlidePress.Proofs.Session.Precedence
import SlidePress.Proofs.Config.Composition
import SlidePress.Proofs.Markdown.File
import SlidePress.Proofs.Story.TitlePage
import SlidePress.Proofs.Session.Handlers
import SlidePress.Proofs.Inline.Balance
import SlidePress.Proofs.Footer.LastLabel
import SlidePress.Proofs.Inline.Escape
