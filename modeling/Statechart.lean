import Statechart.Main
import Statechart.Proofs.Name.Markers
import Statechart.Proofs.Diagram.Coverage
import Statechart.Proofs.States.FirstSeen
import Statechart.Proofs.Diagram.Opening
import Statechart.Proofs.Diagram.Declarations
import Statechart.Proofs.Diagram.Endpoints
import Statechart.Proofs.Command.Play
import Statechart.Proofs.Json.ReadBack
import Statechart.Proofs.Command.Agreement
import Statechart.Proofs.Diagram.Start
import Statechart.Proofs.Focus.LastClick
import Statechart.Proofs.Diagram.Highlight
import Statechart.Proofs.Diagram.Unfocused
import Statechart.Proofs.Json.Overlay
import Statechart.Proofs.Style.Validity
import Statechart.Proofs.Text.Lines
import Statechart.Proofs.Diagram.Lines
import Statechart.Proofs.Diagram.Renamed
import Statechart.Proofs.Diagram.Marked
import Statechart.Proofs.List.Search
import Statechart.Proofs.Diagram.Reordered
import Statechart.Proofs.Style.Layers
import Statechart.Proofs.Diagram.Header
import Statechart.Proofs.Table.Lookup
import Statechart.Proofs.Files.Place
import Statechart.Proofs.Files.Paths
import Statechart.Proofs.Command.Grammar
import Statechart.Proofs.Command.Atomic
import Statechart.Proofs.Command.Styling
import Statechart.Proofs.Command.Unseen
import Statechart.Proofs.Command.Channels
import Statechart.Proofs.Tasks.Merge
import Statechart.Proofs.Diagram.Styled
import Statechart.Proofs.Item.Noise
import Statechart.Proofs.Diagram.Lenient
import Statechart.Proofs.Item.Canonical
import Statechart.Proofs.Name.Grammar
import Statechart.Proofs.Diagram.Decoding
import Statechart.Proofs.Style.Lens
import Statechart.Proofs.Json.Distinct
import Statechart.Proofs.Json.Merge
import Statechart.Proofs.Health.Flags
import Statechart.Proofs.Focus.Runs
import Statechart.Proofs.Focus.IndexedClick
import Statechart.Proofs.Item.Respelled
