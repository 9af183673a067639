import Tidymark.Batch
import Tidymark.Command
import Tidymark.Command.Arguments
import Tidymark.Config
import Tidymark.Config.Decode
import Tidymark.Config.Print
import Tidymark.Config.Read
import Tidymark.Config.Search
import Tidymark.Config.Validity
import Tidymark.Config.Value
import Tidymark.Diff
import Tidymark.Discovery
import Tidymark.Document
import Tidymark.Document.Markers
import Tidymark.Document.Outline
import Tidymark.Document.Reading
import Tidymark.Engine
import Tidymark.Failure
import Tidymark.FileTree
import Tidymark.Format
import Tidymark.FrontMatter
import Tidymark.Ignore
import Tidymark.Inline.Cleanup
import Tidymark.Inline.CodeSpan
import Tidymark.Inline.Link
import Tidymark.Json
import Tidymark.Main
import Tidymark.Markdown.Block
import Tidymark.Markdown.Cursor
import Tidymark.Markdown.Entity
import Tidymark.Markdown.EntityNames
import Tidymark.Markdown.Event
import Tidymark.Markdown.Html
import Tidymark.Markdown.Interrupt
import Tidymark.Markdown.Leaf
import Tidymark.Markdown.Line
import Tidymark.Markdown.Mark
import Tidymark.Markdown.Open
import Tidymark.Markdown.Paragraph
import Tidymark.Markdown.Read
import Tidymark.Markdown.Reference
import Tidymark.Path
import Tidymark.Reflow
import Tidymark.Reflow.Opener
import Tidymark.Reflow.Token
import Tidymark.Render
import Tidymark.Render.BlankLines
import Tidymark.Render.BrokenLink
import Tidymark.Rule
import Tidymark.Text
import Tidymark.Text.Blank
import Tidymark.Text.Case
import Tidymark.Text.CharRange
import Tidymark.Text.Digits
import Tidymark.Text.Piece
import Tidymark.Text.Quoted
import Tidymark.Text.Utf8
import Tidymark.Text.Word
import Tidymark.Toml
import Tidymark.Toml.Lexical
import Tidymark.Toml.Table
import Tidymark.Yaml
import Tidymark.Yaml.Place
import Tidymark.Yaml.Plain
import Tidymark.Yaml.Print
import Tidymark.Yaml.Scalar
import Tidymark.Yaml.Token
import Tidymark.Proofs.Document.Frame
import Tidymark.Proofs.Document.Normalized
import Tidymark.Proofs.Document.ReadShape
import Tidymark.Proofs.Engine.Course
import Tidymark.Proofs.Engine.Dispatch
import Tidymark.Proofs.Engine.Order
import Tidymark.Proofs.Engine.StandardPass
import Tidymark.Proofs.Format.Failures
import Tidymark.Proofs.Format.FrontMatter
import Tidymark.Proofs.Format.SecondPass
import Tidymark.Proofs.Format.Skeleton
import Tidymark.Proofs.Markdown.HeadingLevels
import Tidymark.Proofs.Reflow.Content
import Tidymark.Proofs.Render.BlankRuns
import Tidymark.Proofs.Render.Content
import Tidymark.Proofs.Render.Verbatim
import Tidymark.Proofs.Text.Encoding
import Tidymark.Proofs.Text.Spacing
import Tidymark.Proofs.Render.Lines
import Tidymark.Proofs.Render.Rows
import Tidymark.Proofs.Render.Nesting
import Tidymark.Proofs.Format.LeadingFence
import Tidymark.Proofs.Reflow.LineEnds
import Tidymark.Proofs.Format.TrailingBlanks
import Tidymark.Batch.Schedule
import Tidymark.Proofs.Batch.Tasks
import Tidymark.Proofs.Batch.Schedules
import Tidymark.Proofs.FileTree.Paths
import Tidymark.Proofs.Discovery.Patterns
import Tidymark.Proofs.Discovery.Walk
import Tidymark.Proofs.Discovery.Files
import Tidymark.Proofs.Command.Modes
import Tidymark.Proofs.Inline.Links
import Tidymark.Proofs.Reflow.Marks
import Tidymark.Proofs.Reflow.Rereading
import Tidymark.Proofs.Reflow.Filling
import Tidymark.Proofs.Reflow.Layout
import Tidymark.Proofs.Reflow.Stability
import Tidymark.Proofs.Reflow.HardBreaks
import Tidymark.Proofs.Markdown.BlockStart
import Tidymark.Proofs.Reflow.Openers
import Tidymark.Proofs.Render.Paragraphs
import Tidymark.Proofs.Inline.Cleanup
import Tidymark.Proofs.Text.EndedLines
import Tidymark.Proofs.Text.Runs
import Tidymark.Proofs.Inline.Tightened
import Tidymark.Proofs.Inline.CodeSpans
import Tidymark.Proofs.Inline.Spans
import Tidymark.Proofs.Inline.Regions
import Tidymark.Proofs.Inline.Destinations
import Tidymark.Proofs.Inline.Emphases
import Tidymark.Proofs.Inline.Escapes
import Tidymark.Proofs.Inline.Settling
import Tidymark.Proofs.Render.Fences
import Tidymark.Proofs.Render.Headings
import Tidymark.Proofs.Markdown.Events
import Tidymark.Proofs.Document.PlainLists
import Tidymark.Proofs.Document.Neighbours
import Tidymark.Proofs.Text.Collapsed
import Tidymark.Proofs.Inline.HeadingText
import Tidymark.Proofs.Document.HeadingLines
import Tidymark.Proofs.Discovery.Spellings
import Tidymark.Proofs.Inline.SpanRanges
import Tidymark.Proofs.Inline.LinkRanges
import Tidymark.Proofs.Reflow.TokenScan
import Tidymark.Proofs.Reflow.TokenRuns
import Tidymark.Proofs.Render.BlankCaps
