import HtmlBuilder.Main
import HtmlBuilder.Proofs.Nesting
import HtmlBuilder.Proofs.Reading.Unique
import HtmlBuilder.Proofs.Assembly
import HtmlBuilder.Proofs.Reformatting
import HtmlBuilder.Proofs.Reading.Segment
import HtmlBuilder.Proofs.LineFeeds
import HtmlBuilder.Proofs.Markup.Content
import HtmlBuilder.Proofs.PlainText
import HtmlBuilder.Proofs.Markup.Serialisation
import HtmlBuilder.Proofs.Settings.Overrides
import HtmlBuilder.Proofs.Settings.Layers
import HtmlBuilder.Proofs.Command.Check
import HtmlBuilder.Proofs.Command.Flags
import HtmlBuilder.Proofs.Command.Output
import HtmlBuilder.Proofs.Blocks
import HtmlBuilder.Proofs.Markup.BodyTag
import HtmlBuilder.Proofs.Registration
import HtmlBuilder.Proofs.Settings.Faults
import HtmlBuilder.Proofs.Text.Splitting
import HtmlBuilder.Proofs.Reading.ClassNames
import HtmlBuilder.Proofs.Text.Joining
import HtmlBuilder.Proofs.AttributeStore
