import TypstPress.Attempt
import TypstPress.Charset
import TypstPress.Charset.Defect
import TypstPress.Charset.Detection
import TypstPress.Charset.SingleByte
import TypstPress.Charset.Utf16
import TypstPress.Charset.Utf8
import TypstPress.CommandLine.Arguments
import TypstPress.CommandLine.Flag
import TypstPress.CommandLine.Manifest
import TypstPress.CommandLine.Run
import TypstPress.CommandLine.Usage
import TypstPress.CommandLine.Word
import TypstPress.Decimal.Binary64
import TypstPress.Decimal.Fixed
import TypstPress.Decimal.Shortest
import TypstPress.Document.Node
import TypstPress.Document.Traverse
import TypstPress.Document.Url
import TypstPress.Failure
import TypstPress.Files.FileError
import TypstPress.Files.FileTree
import TypstPress.Files.Path
import TypstPress.Files.Workspace
import TypstPress.FrontMatter
import TypstPress.Hash.XXH64
import TypstPress.Json
import TypstPress.Json.Reader
import TypstPress.Json.Writer
import TypstPress.Log
import TypstPress.Log.Format
import TypstPress.Log.Level
import TypstPress.Log.Output
import TypstPress.Main
import TypstPress.Markdown.Block
import TypstPress.Markdown.Block.Container
import TypstPress.Markdown.Block.Leaf
import TypstPress.Markdown.Block.Recognise
import TypstPress.Markdown.Directive
import TypstPress.Markdown.Entity
import TypstPress.Markdown.EntityTable
import TypstPress.Markdown.Escape
import TypstPress.Markdown.Html
import TypstPress.Markdown.Indent
import TypstPress.Markdown.Inline.Delimiter
import TypstPress.Markdown.Inline.Piece
import TypstPress.Markdown.Inline.Read
import TypstPress.Markdown.Inline.Span
import TypstPress.Markdown.Link
import TypstPress.Markdown.Nodes
import TypstPress.Markdown.Read
import TypstPress.Markdown.Table
import TypstPress.Markdown.Token
import TypstPress.Markdown.Url
import TypstPress.Metadata
import TypstPress.Options
import TypstPress.Options.Basic
import TypstPress.Options.Markdown
import TypstPress.Options.Typst
import TypstPress.Package.Requirement
import TypstPress.Package.Specifier
import TypstPress.Package.Version
import TypstPress.Pipeline
import TypstPress.Proofs.Attempt
import TypstPress.Proofs.Charset.Detection
import TypstPress.Proofs.Charset.Utf8
import TypstPress.Proofs.CommandLine.Arguments
import TypstPress.Proofs.CommandLine.Ending
import TypstPress.Proofs.Document.Essence
import TypstPress.Proofs.Document.Preorder
import TypstPress.Proofs.Document.WellFormed
import TypstPress.Proofs.Files.FileTree
import TypstPress.Proofs.FrontMatter
import TypstPress.Proofs.Log.Output
import TypstPress.Proofs.Markdown.Encodable
import TypstPress.Proofs.Markdown.Reading
import TypstPress.Proofs.Markdown.References
import TypstPress.Proofs.Markdown.WellFormed
import TypstPress.Proofs.Pipeline
import TypstPress.Proofs.Pipeline.Failures
import TypstPress.Proofs.Pipeline.Preamble
import TypstPress.Proofs.Text.Span
import TypstPress.Proofs.Transform.Arranged
import TypstPress.Proofs.Transform.AttributeGrammar
import TypstPress.Proofs.Transform.Commuting
import TypstPress.Proofs.Transform.Encodable
import TypstPress.Proofs.Transform.MarkedCells
import TypstPress.Proofs.Transform.Remerging
import TypstPress.Proofs.Transform.Run
import TypstPress.Proofs.Transform.Settled
import TypstPress.Proofs.Transform.SpanForm
import TypstPress.Proofs.Transform.SpanGrowth
import TypstPress.Proofs.Transform.Tiling
import TypstPress.Proofs.Transform.WellFormed
import TypstPress.Proofs.Typst.Balance
import TypstPress.Proofs.Typst.Correspondence
import TypstPress.Proofs.Typst.Encodable
import TypstPress.Proofs.Typst.Essence
import TypstPress.Proofs.Typst.Faithful
import TypstPress.Proofs.Typst.Footnotes
import TypstPress.Proofs.Typst.ImageCalls
import TypstPress.Proofs.Typst.Images
import TypstPress.Proofs.Typst.Labels
import TypstPress.Proofs.Typst.Length
import TypstPress.Proofs.Typst.Literal
import TypstPress.Proofs.Typst.Malformed
import TypstPress.Proofs.Typst.Markup
import TypstPress.Proofs.Typst.Noninterference
import TypstPress.Proofs.Typst.NoteBodies
import TypstPress.Proofs.Typst.Payload
import TypstPress.Proofs.Typst.Reader
import TypstPress.Proofs.Typst.Reached
import TypstPress.Proofs.Typst.References
import TypstPress.Proofs.Typst.Renderer
import TypstPress.Proofs.Typst.Run
import TypstPress.Proofs.Typst.Scan
import TypstPress.Proofs.Typst.Shown
import TypstPress.Proofs.Typst.WellFormed
import TypstPress.Proofs.Typst.WholeDocument
import TypstPress.Proofs.Yaml.Content
import TypstPress.Source
import TypstPress.System
import TypstPress.Text.Alphanumeric
import TypstPress.Text.Blank
import TypstPress.Text.Case
import TypstPress.Text.CaseTable
import TypstPress.Text.Digit
import TypstPress.Text.Lines
import TypstPress.Text.Printable
import TypstPress.Text.Quoted
import TypstPress.Text.Ranges
import TypstPress.Transform
import TypstPress.Transform.AttributeBlock
import TypstPress.Transform.ImageAttributes
import TypstPress.Transform.Rewrite
import TypstPress.Transform.TableSpans
import TypstPress.Transform.TypstMarkup
import TypstPress.Typst.Asset
import TypstPress.Typst.Compile
import TypstPress.Typst.Definitions
import TypstPress.Typst.Fragment
import TypstPress.Typst.Length
import TypstPress.Typst.Literal
import TypstPress.Typst.Renderer
import TypstPress.Yaml
import TypstPress.Yaml.BlockText
import TypstPress.Yaml.Content
import TypstPress.Yaml.Cursor
import TypstPress.Yaml.Grammar
import TypstPress.Yaml.Implicit
import TypstPress.Yaml.Moment
import TypstPress.Yaml.Node
import TypstPress.Yaml.Number
import TypstPress.Yaml.Plain
import TypstPress.Yaml.Problem
import TypstPress.Yaml.Property
import TypstPress.Yaml.Quoted
import TypstPress.Yaml.Scan
import TypstPress.Yaml.Tag
import TypstPress.Yaml.Token
import TypstPress.Proofs.Transform.Essence
import TypstPress.Proofs.Pipeline.Essence
import TypstPress.Proofs.Json.Reading
import TypstPress.Proofs.CommandLine.Delivery
import TypstPress.Proofs.Document.Place
import TypstPress.Proofs.Transform.MovedBlocks
import TypstPress.Proofs.Transform.BlockRecursion
import TypstPress.Proofs.Transform.BlockWalk
import TypstPress.Proofs.Transform.ClosedForm
import TypstPress.Proofs.Typst.EmittedSpans
import TypstPress.Proofs.FrontMatter.Splitting
import TypstPress.Proofs.Typst.LengthGrammar
import TypstPress.Proofs.Transform.DirectiveWalk
import TypstPress.Proofs.Markdown.Conversion
import TypstPress.Proofs.Charset.ReadingBack
import TypstPress.Proofs.Charset.Priority
import TypstPress.Proofs.Typst.Escaping
import TypstPress.Proofs.Typst.Visiting
import TypstPress.Proofs.Typst.Additions
import TypstPress.Proofs.Document.Order
