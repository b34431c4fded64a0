import Inlay.Attributes
import Inlay.BlockList
import Inlay.CommandLine.Arguments
import Inlay.CommandLine.Folder
import Inlay.CommandLine.Page
import Inlay.CommandLine.Run
import Inlay.CommandLine.Settings
import Inlay.Compilation
import Inlay.Dialect
import Inlay.Document
import Inlay.Document.Parse
import Inlay.Document.Render
import Inlay.Forest
import Inlay.Host
import Inlay.Html.Engine
import Inlay.Html.Escape
import Inlay.Html.Standard.ReferenceNames
import Inlay.Html.Standard.ReferenceNames.Capitals
import Inlay.Html.Standard.ReferenceNames.SmallAToG
import Inlay.Html.Standard.ReferenceNames.SmallHToN
import Inlay.Html.Standard.ReferenceNames.SmallOToZ
import Inlay.Html.Render
import Inlay.Html.Standard
import Inlay.Html.Standard.Reference
import Inlay.Html.Standard.Serializer
import Inlay.Html.Standard.Tokenizer
import Inlay.Html.TextContent
import Inlay.Log.Filter
import Inlay.Log.Record
import Inlay.Main
import Inlay.Markup.AttributeGroup
import Inlay.Markup.Brace
import Inlay.Markup.Compile
import Inlay.Markup.Head
import Inlay.Markup.Offset
import Inlay.Markup.Printer
import Inlay.Style.Block
import Inlay.Style.Compile
import Inlay.Style.Line
import Inlay.Style.Variables
import Inlay.Template
import Inlay.Text
import Inlay.Text.Blank
import Inlay.Text.ControlSequence
import Inlay.Text.Invisible
import Inlay.Text.Lines
import Inlay.Text.Quoted
import Inlay.Text.Search
import Inlay.Proofs.Markup.AttributeGroup
import Inlay.Proofs.Markup.Balance
import Inlay.Proofs.Markup.Spelling
import Inlay.Proofs.Forest
import Inlay.Proofs.Markup.Descent
import Inlay.Proofs.Markup.Compile
import Inlay.Proofs.Markup.Layout
import Inlay.Proofs.Attributes
import Inlay.Proofs.Text.Trim
import Inlay.Proofs.Markup.PrintedHead
import Inlay.Proofs.Markup.Canonical
import Inlay.Proofs.Markup.RoundTrip
import Inlay.Proofs.Markup.Clean
import Inlay.Proofs.Markup.Walk
import Inlay.Proofs.Markup.Bounds
import Inlay.Proofs.Markup.Nesting
import Inlay.Proofs.Text.Search
import Inlay.Proofs.Document.Division
import Inlay.Proofs.Compilation
import Inlay.Proofs.Document.History
import Inlay.Proofs.Style.Variables
import Inlay.Proofs.Template
import Inlay.Proofs.CommandLine.Page
import Inlay.Proofs.CommandLine.Run
import Inlay.Proofs.Compilation.Rerun
import Inlay.Proofs.Style.Strict
import Inlay.Proofs.Markup.Grammar
import Inlay.Proofs.Markup.WrittenAttributes
import Inlay.Proofs.Text.Words
import Inlay.Proofs.Text.Lines
import Inlay.Proofs.Style.Line
import Inlay.Proofs.Style.Composition
import Inlay.Proofs.Style.Blocks
import Inlay.Proofs.Style.WrittenBlocks
import Inlay.Proofs.Style.Braces
import Inlay.Proofs.Markup.Concatenation
import Inlay.Proofs.Markup.OpenedTags
import Inlay.Proofs.Document.StyleElements
import Inlay.Proofs.Markup.Matching
import Inlay.Proofs.Style.VariableHistory
import Inlay.Proofs.Html.TextContent
import Inlay.Proofs.Html.Serializer
import Inlay.Proofs.Html.Standard.Serializer
import Inlay.Proofs.Html.Standard.Tokenizer
import Inlay.Proofs.Document.Embedding
import Inlay.Proofs.Template.Skeleton
import Inlay.Proofs.Attributes.OrderedMap
