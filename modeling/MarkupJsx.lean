import MarkupJsx.Main
import MarkupJsx.Storage.Tree
import MarkupJsx.Proofs.Text.Runs
import MarkupJsx.Proofs.Text.Trim
import MarkupJsx.Proofs.Text.Lowercase
import MarkupJsx.Proofs.Jsx.Escape
import MarkupJsx.Proofs.Jsx.Escaped
import MarkupJsx.Proofs.Jsx.Writing
import MarkupJsx.Proofs.Jsx.Closing
import MarkupJsx.Proofs.Jsx.Normal
import MarkupJsx.Proofs.Markup.AttributeScan
import MarkupJsx.Proofs.Markup.Attributes
import MarkupJsx.Proofs.Markup.Reports
import MarkupJsx.Proofs.Markup.Rest
import MarkupJsx.Proofs.Markup.Spelling
import MarkupJsx.Proofs.Markup.Settling
import MarkupJsx.Proofs.Markup.Growing
import MarkupJsx.Proofs.Markup.VoidElements
import MarkupJsx.Proofs.Markup.References
import MarkupJsx.Proofs.Markup.Reading
import MarkupJsx.Proofs.Markup.TagForm
import MarkupJsx.Proofs.Markup.StartTag
import MarkupJsx.Proofs.Markup.TreeBuilder
import MarkupJsx.Proofs.Markup.Soup
import MarkupJsx.Proofs.Markup.RoundTrip
import MarkupJsx.Proofs.Markup.Ampersands
import MarkupJsx.Proofs.Markup.TextAhead
import MarkupJsx.Proofs.Markup.LeftOpen
import MarkupJsx.Proofs.Markup.OpeningTags
import MarkupJsx.Proofs.Component.Module
import MarkupJsx.Proofs.Component.Expressions
import MarkupJsx.Proofs.Jsx.Token
import MarkupJsx.Proofs.Storage.Tree
import MarkupJsx.Proofs.Storage.Writing
import MarkupJsx.Proofs.Command.Runs
import MarkupJsx.Proofs.Command.Overwriting
import MarkupJsx.Proofs.Paths
import MarkupJsx.Proofs.Manifest.Names
import MarkupJsx.Proofs.Command.Batch
import MarkupJsx.Proofs.Command.Files
import MarkupJsx.Proofs.Command.StandardInput
import MarkupJsx.Proofs.Command.Sequence
import MarkupJsx.Proofs.Storage.ReadBack
import MarkupJsx.Proofs.Component.Identifiers
import MarkupJsx.Proofs.Component.DerivedNames
import MarkupJsx.Proofs.Manifest.Description
import MarkupJsx.Proofs.Command.Manifests
