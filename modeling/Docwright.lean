import Docwright.Csv
import Docwright.Decimal.Binary
import Docwright.Decimal.Fixed
import Docwright.Decimal.Layout
import Docwright.Decimal.Reading
import Docwright.Decimal.Shortest
import Docwright.Edit.Builder
import Docwright.Edit.Operation
import Docwright.Failure.Basic
import Docwright.Failure.Response
import Docwright.Json.Basic
import Docwright.Json.Printer
import Docwright.Json.Reader
import Docwright.Json.Shown
import Docwright.Log
import Docwright.Markdown.Character
import Docwright.Markdown.Compile
import Docwright.Markdown.Delimiter
import Docwright.Markdown.Document
import Docwright.Markdown.Html
import Docwright.Markdown.Line
import Docwright.Markdown.Link
import Docwright.Markdown.Outline
import Docwright.Markdown.Phrase
import Docwright.Markdown.Styled
import Docwright.Markdown.Tree
import Docwright.Markdown.Url
import Docwright.Number
import Docwright.Number.Reading
import Docwright.Refusal
import Docwright.Retry.Policy
import Docwright.Retry.Run
import Docwright.Settings
import Docwright.Snapshot.Basic
import Docwright.Snapshot.Section
import Docwright.Snapshot.Table
import Docwright.Style.Check
import Docwright.Style.Color
import Docwright.Style.Named
import Docwright.Style.Paragraph
import Docwright.Style.Text
import Docwright.Table.Job
import Docwright.Template.Basic
import Docwright.Template.Checked
import Docwright.Template.Compile
import Docwright.Template.Draft
import Docwright.Template.Printer
import Docwright.Template.Reader
import Docwright.Template.Value
import Docwright.Text.Blank
import Docwright.Text.CaseFold
import Docwright.Text.Digits
import Docwright.Text.Entities
import Docwright.Text.Printable
import Docwright.Text.Punctuation
import Docwright.Text.Punycode
import Docwright.Text.Quoted
import Docwright.Text.Ranges
import Docwright.Text.Surrogate
import Docwright.Text.Units
import Docwright.Writer.Call
import Docwright.Writer.Content
import Docwright.Writer.Population
import Docwright.Writer.Section
import Docwright.Writer.Session
import Docwright.Writer.Structure
import Docwright.Writer.Text
import Docwright.Proofs.Replay.Batch
import Docwright.Proofs.Replay.Writing
import Docwright.Proofs.Markdown.Batch
import Docwright.Proofs.Markdown.Placement
import Docwright.Proofs.Markdown.Nodes
import Docwright.Proofs.Template.Accepted
import Docwright.Proofs.Template.Batch
import Docwright.Proofs.Edit.Steps
import Docwright.Proofs.Snapshot.Nearest
import Docwright.Proofs.Table.Claiming
import Docwright.Proofs.Template.Placement
import Docwright.Proofs.Template.Created
import Docwright.Proofs.Replay.Spread
import Docwright.Proofs.Table.Inserts
import Docwright.Proofs.Table.Filling
import Docwright.Proofs.Table.Headers
import Docwright.Proofs.Prose.Headings
import Docwright.Proofs.Retry.Discipline
import Docwright.Proofs.Writer.Population
import Docwright.Proofs.Writer.Phases
import Docwright.Proofs.Writer.Reporting
import Docwright.Proofs.Writer.Accounting
import Docwright.Proofs.Replay.Requests
import Docwright.Proofs.Writer.Faithful
import Docwright.Proofs.Replay.Order
import Docwright.Proofs.Replay.Styling
import Docwright.Proofs.Template.Acceptance
import Docwright.Proofs.Template.Attributes
import Docwright.Proofs.Template.Reasons
import Docwright.Proofs.Template.Reordering
import Docwright.Proofs.Template.WellFormed
import Docwright.Proofs.Template.Validated
import Docwright.Proofs.Markdown.Words
import Docwright.Proofs.Writer.Calls
import Docwright.Proofs.Writer.Surfacing
import Docwright.Proofs.Writer.Refusing
import Docwright.Proofs.Settings.Kept
import Docwright.Proofs.Table.Lifecycle
import Docwright.Proofs.Edit.Composition
import Docwright.Proofs.Writer.Direct
import Docwright.Proofs.Failure.Transience
import Docwright.Proofs.Markdown.Literal
import Docwright.Proofs.Writer.Replacing
import Docwright.Proofs.Edit.Lists
import Docwright.Proofs.Table.Ranking
import Docwright.Proofs.Retry.Delays
import Docwright.Proofs.Retry.Schedule
import Docwright.Proofs.Table.Records
import Docwright.Proofs.Writer.Sheets
import Docwright.Proofs.Number.Rounding
import Docwright.Proofs.Number.Double
import Docwright.Proofs.Number.Value
import Docwright.Proofs.Number.Arithmetic
import Docwright.Proofs.Retry.Ceiling
import Docwright.Proofs.Style.Color
import Docwright.Proofs.Template.Colors
import Docwright.Proofs.Markdown.Fonts
import Docwright.Proofs.Settings.Blanks
import Docwright.Proofs.Number.Infinite
import Docwright.Proofs.Retry.Validity
