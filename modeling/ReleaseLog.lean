import ReleaseLog.FileTree.Edit
import ReleaseLog.Main
import ReleaseLog.Proofs.Text.Lines
import ReleaseLog.Proofs.Text.Search
import ReleaseLog.Proofs.Document.Heading
import ReleaseLog.Proofs.Text.Trim
import ReleaseLog.Proofs.Document.WellFormed
import ReleaseLog.Proofs.Document.Outline
import ReleaseLog.Proofs.Document.LinkTable
import ReleaseLog.Proofs.Document.Body
import ReleaseLog.Proofs.Document.Entry
import ReleaseLog.Proofs.Document.Release
import ReleaseLog.Proofs.Document.LinkRegion
import ReleaseLog.Proofs.Document.History
import ReleaseLog.Proofs.Document.Permanence
import ReleaseLog.Proofs.Document.Repeats
import ReleaseLog.Proofs.FileTree.Resolve
import ReleaseLog.Proofs.Run.Basic
import ReleaseLog.Proofs.Run.Effect
import ReleaseLog.Proofs.Run.Repeat
import ReleaseLog.Proofs.Text.Span
import ReleaseLog.Proofs.Text.Utf8
import ReleaseLog.Proofs.Document.BodyLines
import ReleaseLog.Proofs.Document.Edits
import ReleaseLog.Proofs.Date.Stamp
import ReleaseLog.Proofs.Url.Domain
import ReleaseLog.Proofs.Url.Host
import ReleaseLog.Proofs.Url.TrailingSlash
import ReleaseLog.Proofs.Config.Basic
import ReleaseLog.Proofs.Config.Links
import ReleaseLog.Proofs.Config.RoundTrip
import ReleaseLog.Proofs.Run.LineEndings
import ReleaseLog.Proofs.Run.Preview
import ReleaseLog.Proofs.Console.Inputs
import ReleaseLog.Proofs.Document.Bullet
import ReleaseLog.Proofs.Document.References
import ReleaseLog.Proofs.Text.Decimal
import ReleaseLog.Proofs.Date.Reading
import ReleaseLog.Proofs.Document.Spacing
import ReleaseLog.Proofs.Document.HeadingLine
import ReleaseLog.Proofs.Url.WhiteSpace
import ReleaseLog.Proofs.Url.Padding
import ReleaseLog.Proofs.Config.Padding
import ReleaseLog.Proofs.Text.LineEnding
import ReleaseLog.Proofs.Document.Version
import ReleaseLog.Proofs.Document.LinkLabels
import ReleaseLog.Proofs.FileTree.Places
import ReleaseLog.Proofs.Run.Replace
import ReleaseLog.Proofs.Console.Settings
import ReleaseLog.Proofs.Text.Numeral
import ReleaseLog.Proofs.Config.PullRequest
