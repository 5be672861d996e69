import LiveMarkdown.Command.Run
import LiveMarkdown.Proofs.Buffer.Partition
import LiveMarkdown.Proofs.Buffer.Replacement
import LiveMarkdown.Proofs.Buffer.Runs
import LiveMarkdown.Proofs.Buffer.ValueSpan
import LiveMarkdown.Proofs.Lifecycle.Additivity
import LiveMarkdown.Proofs.Lifecycle.Cancellation
import LiveMarkdown.Proofs.Lifecycle.Deliveries
import LiveMarkdown.Proofs.Lifecycle.Idle
import LiveMarkdown.Proofs.Lifecycle.Keystrokes
import LiveMarkdown.Proofs.Lifecycle.LineByLine
import LiveMarkdown.Proofs.Lifecycle.Locality
import LiveMarkdown.Proofs.Lifecycle.Recorded
import LiveMarkdown.Proofs.Lifecycle.Silence
import LiveMarkdown.Proofs.Lifecycle.Staleness
import LiveMarkdown.Proofs.Markdown.Trees
import LiveMarkdown.Proofs.Report.Lossless
import LiveMarkdown.Proofs.Style.Catalog
import LiveMarkdown.Proofs.Style.ColorText
import LiveMarkdown.Proofs.Style.Colors
import LiveMarkdown.Proofs.Styling.Characters
import LiveMarkdown.Proofs.Styling.Confinement
import LiveMarkdown.Proofs.Styling.Fonts
import LiveMarkdown.Proofs.Styling.Layouts
import LiveMarkdown.Proofs.Styling.Markers
import LiveMarkdown.Proofs.Styling.Relayout
import LiveMarkdown.Proofs.Styling.Splice
import LiveMarkdown.Proofs.Text.LineIndex
import LiveMarkdown.Proofs.Text.Lines
import LiveMarkdown.Proofs.Text.Positions
