import Terracotta.Run
import Terracotta.Json
import Terracotta.Snapshot
import Terracotta.Contracts
import Terracotta.Wire
import Terracotta.RoomService
import Terracotta.RoomInvariant
import Terracotta.RoomSteps
import Terracotta.Announced
import Terracotta.KeyedView
import Terracotta.MemberEvents
import Terracotta.Health
import Terracotta.LocalAddress
import Terracotta.Frames
import Terracotta.Framing
import Terracotta.Session
import Terracotta.Helper
import Terracotta.IpcClient
import Terracotta.StateMachine
import Terracotta.Controller
import Terracotta.ProcessManager
import Terracotta.System
import Terracotta.Settling
import Terracotta.Refusal
import Terracotta.Effects
import Terracotta.AfterLeave
import Terracotta.CrashWindow
import Terracotta.PendingCreate
import Terracotta.OpenRequests
import Terracotta.Published
import Terracotta.Transitions
import Terracotta.Concurrent
import Terracotta.Sections
import Terracotta.Serial
import Terracotta.FrameStream
import Terracotta.JsonText
import Terracotta.Requests
import Terracotta.RequestIds
import Terracotta.Replies
import Terracotta.StatusRequests
import Terracotta.Credentials
import Terracotta.Expiry
import Terracotta.Handshake
import Terracotta.Scaffolding
import Terracotta.Codec
import Terracotta.ScaffoldingFrames
import Terracotta.Duplex
import Terracotta.Matching
import Terracotta.Stranded
import Terracotta.Lifecycle
import Terracotta.StaleClient
import Terracotta.Generations
import Terracotta.GateSections
import Terracotta.Roster
import Terracotta.Backend
import Terracotta.LiveRoom
import Terracotta.Slices
import Terracotta.RoomCodes
import Terracotta.MeshNetwork
import Terracotta.Guests
import Terracotta.Serving
import Terracotta.ListSize
import Terracotta.ScaffoldingLink
import Terracotta.LanAddress
import Terracotta.Advertisements
import Terracotta.RememberedChoice
import Terracotta.Ownership
import Terracotta.Resources
import Terracotta.JoinPaths
import Terracotta.DiscoveryStore
import Terracotta.AcceptLoops
import Terracotta.Regex
import Terracotta.Replacement
import Terracotta.LanOutput
import Terracotta.Redactor
import Terracotta.KeyBlocks
import Terracotta.Selection
import Terracotta.IdentityKey
import Terracotta.BitString
import Terracotta.NetworkName
import Terracotta.Binary64
import Terracotta.PeerTable
import Terracotta.PeerLoss
import Terracotta.IdentityStore
import Terracotta.Gateway
import Terracotta.OneIdentity
import Terracotta.GatewaySession
import Terracotta.UnixPath
import Terracotta.Endpoint
import Terracotta.Slots
import Terracotta.TaskOwnership
import Terracotta.BoundedQueue
import Terracotta.EventPump
import Terracotta.PackagePath
import Terracotta.Launch
import Terracotta.Intents
import Terracotta.Recovery
import Terracotta.Seams
import Terracotta.KeyMarkers
import Terracotta.EventBus
import Terracotta.OwnedField
import Terracotta.Holdings
import Terracotta.SocketFile
