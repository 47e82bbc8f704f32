import ForumMarkup.CommandLine.Arguments
import ForumMarkup.CommandLine.Flag
import ForumMarkup.CommandLine.Help
import ForumMarkup.CommandLine.Layering
import ForumMarkup.CommandLine.Run
import ForumMarkup.Config.Discovery
import ForumMarkup.Config.File
import ForumMarkup.Config.Format
import ForumMarkup.Config.Numeral
import ForumMarkup.Config.Toml.Reader
import ForumMarkup.Config.Toml.Scalar
import ForumMarkup.Config.Yaml.Fault
import ForumMarkup.Config.Yaml.Form
import ForumMarkup.Config.Yaml.Node
import ForumMarkup.Config.Yaml.Reader
import ForumMarkup.Config.Yaml.Scalar
import ForumMarkup.Config.Yaml.Token.Basic
import ForumMarkup.Config.Yaml.Token.Content
import ForumMarkup.Config.Yaml.Token.Property
import ForumMarkup.Config.Yaml.Token.Sequence
import ForumMarkup.Document.Blanks
import ForumMarkup.Document.Builder
import ForumMarkup.Document.Codec
import ForumMarkup.Document.Kind
import ForumMarkup.Document.Load
import ForumMarkup.Document.Misfit
import ForumMarkup.Document.Node
import ForumMarkup.Document.Serial
import ForumMarkup.Document.Traversal
import ForumMarkup.Export
import ForumMarkup.Expression.Draft
import ForumMarkup.Expression.Evaluate
import ForumMarkup.Expression.Signature
import ForumMarkup.Json.Failure
import ForumMarkup.Json.Reader
import ForumMarkup.Json.Writer
import ForumMarkup.Log.Logger
import ForumMarkup.Log.Record
import ForumMarkup.Main
import ForumMarkup.Markup.Footnote
import ForumMarkup.Markup.Headline
import ForumMarkup.Markup.Link
import ForumMarkup.Markup.Tag
import ForumMarkup.Markup.Unsupported
import ForumMarkup.Number.Binary64
import ForumMarkup.Number.Decimal
import ForumMarkup.Number.Shortest
import ForumMarkup.Options
import ForumMarkup.Pass.Renderer
import ForumMarkup.Pass.State
import ForumMarkup.Pass.Transcode
import ForumMarkup.Proofs.Document.Induction
import ForumMarkup.Proofs.Markup.Piece
import ForumMarkup.Proofs.Pass.Point
import ForumMarkup.Proofs.Pass.Role
import ForumMarkup.Report
import ForumMarkup.Storage.FileTree
import ForumMarkup.Storage.Output
import ForumMarkup.Storage.Path
import ForumMarkup.Text.Blank
import ForumMarkup.Text.Case
import ForumMarkup.Text.Casing
import ForumMarkup.Text.Digit
import ForumMarkup.Text.Encoding
import ForumMarkup.Text.Indent
import ForumMarkup.Text.Newline
import ForumMarkup.Text.Percent
import ForumMarkup.Text.Printable
import ForumMarkup.Text.Quoted
import ForumMarkup.Text.Utf8
import ForumMarkup.Value.Basic
import ForumMarkup.Value.Calendar
import ForumMarkup.Value.Setting
import ForumMarkup.Proofs.Pass.Course
import ForumMarkup.Proofs.Pass.Fold
import ForumMarkup.Proofs.Pass.Notes
import ForumMarkup.Proofs.Pass.Document
import ForumMarkup.Proofs.Pass.Trimming
import ForumMarkup.Proofs.Pass.Composition
import ForumMarkup.Proofs.Pass.Numbering
import ForumMarkup.Proofs.Document.Preorder
import ForumMarkup.Proofs.Markup.Nesting
import ForumMarkup.Proofs.Pass.Nesting
import ForumMarkup.Proofs.Pass.Reach
import ForumMarkup.Proofs.Pass.Refusal
import ForumMarkup.Proofs.Value.Exact
import ForumMarkup.Proofs.Json.Token
import ForumMarkup.Proofs.Json.RoundTrip
import ForumMarkup.Proofs.Document.Serial
import ForumMarkup.Proofs.Pass.Atoms
import ForumMarkup.Proofs.Pass.Verbatim
import ForumMarkup.Proofs.Pass.History
import ForumMarkup.Proofs.Pass.Heading
import ForumMarkup.Proofs.Pass.Level
import ForumMarkup.Proofs.Pass.Topmost
import ForumMarkup.Proofs.Document.Grammar
import ForumMarkup.Proofs.Pass.Recast
import ForumMarkup.Proofs.Pass.Shift
import ForumMarkup.Proofs.Pass.Lookup
import ForumMarkup.Proofs.Pass.Placement
import ForumMarkup.Proofs.Document.Edit
import ForumMarkup.Proofs.Document.Codec
import ForumMarkup.Proofs.Value.Entry
import ForumMarkup.Proofs.Document.Change
import ForumMarkup.Proofs.Pass.SameRun
import ForumMarkup.Proofs.Pass.Resemblance
import ForumMarkup.Proofs.Pass.Unseen
import ForumMarkup.Proofs.Pass.Spelling
import ForumMarkup.Proofs.Pass.Splice
import ForumMarkup.Proofs.Pass.Options
import ForumMarkup.Proofs.Text.Newline
import ForumMarkup.Proofs.Text.Utf8
import ForumMarkup.Proofs.Json.Reading.Text
import ForumMarkup.Proofs.Json.Reading.Number
import ForumMarkup.Proofs.Json.Reading.Value
import ForumMarkup.Proofs.Document.Load
import ForumMarkup.Proofs.Storage.Change
import ForumMarkup.Proofs.Export
import ForumMarkup.Proofs.Log.Journal
import ForumMarkup.Proofs.CommandLine.Layering
import ForumMarkup.Proofs.CommandLine.Library
import ForumMarkup.Proofs.CommandLine.Run
import ForumMarkup.Proofs.Markup.FootnoteTable
import ForumMarkup.Proofs.Markup.TableInUse
import ForumMarkup.Proofs.Text.Percent
import ForumMarkup.Proofs.Markup.Anchor
import ForumMarkup.Proofs.Pass.Link
import ForumMarkup.Proofs.Pass.Outside
import ForumMarkup.Proofs.Storage.Fault
import ForumMarkup.Proofs.Config.Discovery
import ForumMarkup.Proofs.Options
import ForumMarkup.Proofs.CommandLine.Precedence
import ForumMarkup.Proofs.Config.Keys
import ForumMarkup.Proofs.Document.Escape
import ForumMarkup.Proofs.CommandLine.Containment
import ForumMarkup.Proofs.Config.Project
import ForumMarkup.Proofs.Config.Mapping
import ForumMarkup.Proofs.Pass.RawLink
import ForumMarkup.Proofs.Pass.Resolution
import ForumMarkup.Proofs.Document.Walk
import ForumMarkup.Proofs.Pass.Watch
import ForumMarkup.Proofs.Pass.Found
import ForumMarkup.Proofs.Log.Handlers
