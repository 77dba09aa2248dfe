import StaticSite.Action
import StaticSite.CommandLine.Options
import StaticSite.CommandLine.Report
import StaticSite.Config.Basic
import StaticSite.Config.File
import StaticSite.Config.Load
import StaticSite.Files.DataFile
import StaticSite.Files.FileSystem
import StaticSite.Files.Path
import StaticSite.Files.Stylesheet
import StaticSite.Generate.Document
import StaticSite.Generate.Run
import StaticSite.Main
import StaticSite.Markdown.Angle
import StaticSite.Markdown.Atom
import StaticSite.Markdown.Block
import StaticSite.Markdown.CodeSpan
import StaticSite.Markdown.Emphasis
import StaticSite.Markdown.EntityNames
import StaticSite.Markdown.Layout
import StaticSite.Markdown.LineForm
import StaticSite.Markdown.Link
import StaticSite.Markdown.Outline
import StaticSite.Markdown.Pattern
import StaticSite.Markdown.RawBlocks
import StaticSite.Markdown.Reading
import StaticSite.Markdown.Render
import StaticSite.Markdown.Source
import StaticSite.Markdown.ToHtml
import StaticSite.Markup.Element
import StaticSite.Markup.Escape
import StaticSite.Markup.Node
import StaticSite.Markup.Tags
import StaticSite.Number.Binary64
import StaticSite.Number.Digits
import StaticSite.Number.Numeral
import StaticSite.Page.CodeBlock
import StaticSite.Page.Skeleton
import StaticSite.Pages.Changelog
import StaticSite.Pages.Commands
import StaticSite.Pages.Home
import StaticSite.Pages.Registry
import StaticSite.Pages.UserGuide
import StaticSite.Proofs.CommandLine.Arguments
import StaticSite.Proofs.Config.Demands
import StaticSite.Proofs.Config.Links
import StaticSite.Proofs.Config.Loaded
import StaticSite.Proofs.Config.Loading
import StaticSite.Proofs.Config.OutputNames
import StaticSite.Proofs.Config.Shape
import StaticSite.Proofs.Files.AtomicWrite
import StaticSite.Proofs.Files.PathText
import StaticSite.Proofs.Files.Reading
import StaticSite.Proofs.Files.Refusals
import StaticSite.Proofs.Files.ShortText
import StaticSite.Proofs.Files.View
import StaticSite.Proofs.Generate.Again
import StaticSite.Proofs.Generate.Attempts
import StaticSite.Proofs.Generate.Faults
import StaticSite.Proofs.Generate.FirstFailure
import StaticSite.Proofs.Generate.Frame
import StaticSite.Proofs.Generate.OwnFiles
import StaticSite.Proofs.Generate.Pages
import StaticSite.Proofs.Generate.Resuming
import StaticSite.Proofs.Generate.Separate
import StaticSite.Proofs.Generate.UnreadableSheet
import StaticSite.Proofs.Markdown.LoneParagraph
import StaticSite.Proofs.Markdown.PlainSource
import StaticSite.Proofs.Markdown.Prose
import StaticSite.Proofs.Markdown.ProseBlocks
import StaticSite.Proofs.Markdown.ProseEmphasis
import StaticSite.Proofs.Markdown.ProseHtml
import StaticSite.Proofs.Markdown.ProseLines
import StaticSite.Proofs.Markdown.ProsePatterns
import StaticSite.Proofs.Markdown.Rendering
import StaticSite.Proofs.Markdown.SafeBlocks
import StaticSite.Proofs.Markdown.SafeEmphasis
import StaticSite.Proofs.Markdown.SafeLines
import StaticSite.Proofs.Markdown.SafeLinks
import StaticSite.Proofs.Markdown.SafeOutline
import StaticSite.Proofs.Markdown.SafePatterns
import StaticSite.Proofs.Markdown.Safety
import StaticSite.Proofs.Markdown.WellFormedHtml
import StaticSite.Proofs.Markup.Calls
import StaticSite.Proofs.Markup.Closed
import StaticSite.Proofs.Markup.Evaluation
import StaticSite.Proofs.Markup.Fragment
import StaticSite.Proofs.Markup.HtmlTree
import StaticSite.Proofs.Markup.Lexeme
import StaticSite.Proofs.Markup.Nesting
import StaticSite.Proofs.Markup.Position
import StaticSite.Proofs.Markup.ReadTag
import StaticSite.Proofs.Markup.Reader
import StaticSite.Proofs.Markup.References
import StaticSite.Proofs.Markup.RoundTrip
import StaticSite.Proofs.Markup.TagSequence
import StaticSite.Proofs.Markup.Verbatim
import StaticSite.Proofs.Markup.WellFormed
import StaticSite.Proofs.Number.Digits
import StaticSite.Proofs.Number.Shown
import StaticSite.Proofs.Page.CodeRows
import StaticSite.Proofs.Page.Document
import StaticSite.Proofs.Page.Footer
import StaticSite.Proofs.Page.Head
import StaticSite.Proofs.Page.Header
import StaticSite.Proofs.Page.RepoSlug
import StaticSite.Proofs.Release.Checks
import StaticSite.Proofs.Release.EntryByEntry
import StaticSite.Proofs.Release.Listing
import StaticSite.Proofs.Release.Malformed
import StaticSite.Proofs.Release.Programs
import StaticSite.Proofs.Release.VersionSpelling
import StaticSite.Proofs.Release.Versions
import StaticSite.Proofs.Session.Apart
import StaticSite.Proofs.Session.SharedSheet
import StaticSite.Proofs.Session.Sight
import StaticSite.Proofs.Text.Delimiter
import StaticSite.Proofs.Text.Splitting
import StaticSite.Proofs.Text.Strip
import StaticSite.Proofs.Value.InOrder
import StaticSite.Proofs.Yaml.DottedScalar
import StaticSite.Proofs.Yaml.FlowFile
import StaticSite.Proofs.Yaml.FlowText
import StaticSite.Proofs.Yaml.FlowValue
import StaticSite.Proofs.Yaml.OpenTree
import StaticSite.Proofs.Yaml.ReadBlock
import StaticSite.Proofs.Yaml.ReadFlow
import StaticSite.Proofs.Yaml.ReadLine
import StaticSite.Proofs.Yaml.ReadScalar
import StaticSite.Release.Basic
import StaticSite.Release.Load
import StaticSite.Session.Basic
import StaticSite.Session.Step
import StaticSite.Text.Base64
import StaticSite.Text.Blank
import StaticSite.Text.Cased
import StaticSite.Text.CodeRange
import StaticSite.Text.DecimalDigit
import StaticSite.Text.Lines
import StaticSite.Text.Lowercase
import StaticSite.Text.Printable
import StaticSite.Text.Quoted
import StaticSite.Text.Utf8
import StaticSite.Text.Word
import StaticSite.Value.Basic
import StaticSite.Value.Calendar
import StaticSite.Value.SetOrder
import StaticSite.Value.Text
import StaticSite.Yaml.Alias
import StaticSite.Yaml.Block
import StaticSite.Yaml.BlockText
import StaticSite.Yaml.Cursor
import StaticSite.Yaml.Document
import StaticSite.Yaml.Error
import StaticSite.Yaml.Flow
import StaticSite.Yaml.Load
import StaticSite.Yaml.Meaning
import StaticSite.Yaml.Node
import StaticSite.Yaml.Plain
import StaticSite.Yaml.Properties
import StaticSite.Yaml.Quoted
import StaticSite.Yaml.Scalar
import StaticSite.Yaml.Setting
import StaticSite.Proofs.Generate.Printed
