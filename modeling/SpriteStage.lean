import SpriteStage.Main
import SpriteStage.Proofs.Ids
import SpriteStage.Proofs.History
import SpriteStage.Proofs.Sessions
import SpriteStage.Proofs.Additivity
import SpriteStage.Proofs.Steps
import SpriteStage.Proofs.Ticks
import SpriteStage.Proofs.Speech
import SpriteStage.Proofs.Windows
import SpriteStage.Proofs.Meetings
import SpriteStage.Proofs.Swaps
import SpriteStage.Proofs.Cursor
import SpriteStage.Proofs.Drawing
import SpriteStage.Proofs.Painting
import SpriteStage.Proofs.Panel
import SpriteStage.Proofs.Agreement
import SpriteStage.Proofs.Firings
import SpriteStage.Proofs.Roster
import SpriteStage.Proofs.Muting
import SpriteStage.Proofs.SecondLook
import SpriteStage.Proofs.Unison
import SpriteStage.Proofs.RoundTrip
import SpriteStage.Proofs.Highlights
import SpriteStage.Proofs.Agendas
import SpriteStage.Proofs.Encores
import SpriteStage.Proofs.Channels
import SpriteStage.Proofs.Clicks
import SpriteStage.Proofs.Stamps
import SpriteStage.Proofs.Turns
import SpriteStage.Proofs.ClosePairs
import SpriteStage.Proofs.Edits
import SpriteStage.Proofs.Exchanges
import SpriteStage.Proofs.Painter
import SpriteStage.Proofs.Faults
import SpriteStage.Proofs.Changes
import SpriteStage.Proofs.Outlines
import SpriteStage.Proofs.Order
import SpriteStage.Proofs.Bounds
import SpriteStage.Proofs.Members
import SpriteStage.Proofs.Segments
import SpriteStage.Proofs.Sums
import SpriteStage.Proofs.Supply
import SpriteStage.Proofs.Seconds
import SpriteStage.Proofs.ValueKeys
import SpriteStage.Proofs.Arguments
