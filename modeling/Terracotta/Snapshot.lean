import Terracotta.Json
/-!
# The Helper's room data (`room/service.rs`, `room/events.rs`)

The records the Helper keeps, asks its backend for and pushes to the plugin, and the equality it compares them with:
the derived `PartialEq`, which goes through the `==` of `f64`.
-/
namespace Terracotta

inductive RoomState where
  | idle | creating | joining | connected | reconnecting | leaving | faulted | diagnosing
deriving DecidableEq, Repr

inductive RoomRole where
  | none | host | member
deriving DecidableEq, Repr

inductive ConnectionMode where
  | unknown | direct | relay
deriving DecidableEq, Repr

structure RoomMember where
  id : String
  displayName : String
  connectionMode : ConnectionMode
  roundTripTimeMilliseconds : Option UInt32
  packetLossPercent : Option F64
deriving DecidableEq

structure NetworkStatus where
  natType : Option String
  connectionMode : ConnectionMode
  roundTripTimeMilliseconds : Option UInt32
  packetLossPercent : Option F64
  relayNode : Option String
  isHealthy : Bool
deriving DecidableEq

structure RoomSnapshot where
  state : RoomState
  role : RoomRole
  roomCode : Option String
  localAddress : Option String
  gameSessionId : Option String
  network : Option NetworkStatus
  members : List RoomMember
  errorCode : Option String
  errorMessage : Option String
deriving DecidableEq

structure RoomError where
  code : String
  message : String
  retryable : Bool
deriving DecidableEq

def RoomSnapshot.pending (state : RoomState) (role : RoomRole) (gameSessionId : Option String) : RoomSnapshot :=
  { state, role, roomCode := none, localAddress := none, gameSessionId, network := none, members := [],
    errorCode := none, errorMessage := none }

def RoomSnapshot.idle : RoomSnapshot := RoomSnapshot.pending .idle .none none

def RoomSnapshot.faulted (role : RoomRole) (gameSessionId : Option String) (error : RoomError) : RoomSnapshot :=
  { RoomSnapshot.pending .faulted role gameSessionId with
    errorCode := some error.code
    errorMessage := some error.message }

structure CreateRoomRequest where
  gameSessionId : String
  lanAddress : String
  preferDirect : Bool
  allowRelay : Bool
deriving DecidableEq

structure JoinRoomRequest where
  roomCode : String
  gameSessionId : Option String
deriving DecidableEq

structure SetLanAddressRequest where
  lanAddress : String
deriving DecidableEq

structure BackendRoom where
  roomCode : String
  localAddress : Option String
  network : NetworkStatus
  members : List RoomMember
deriving DecidableEq

/-- `BackendRefresh`; the fields' defaults are `BackendRefresh::default()`. -/
structure BackendRefresh where
  network : Option NetworkStatus := none
  members : Option (List RoomMember) := none
  localAddress : Option String := none
deriving DecidableEq

/-- `RoomEvent`, with `PeerEvent` and `PeerLeftEvent` as their one field. -/
inductive RoomEvent where
  | peerJoined (member : RoomMember)
  | peerLeft (id : String)
  | peerUpdated (member : RoomMember)
  | networkUpdated (network : NetworkStatus)
  | stateChanged (snapshot : RoomSnapshot)
deriving DecidableEq

def RoomEvent.messageType : RoomEvent → String
  | .peerJoined _ => "peer.joined"
  | .peerLeft _ => "peer.left"
  | .peerUpdated _ => "peer.updated"
  | .networkUpdated _ => "network.updated"
  | .stateChanged _ => "room.state-changed"

def lossEq : Option F64 → Option F64 → Bool
  | none, none => true
  | some x, some y => x.eq y
  | _, _ => false

def RoomMember.eq (a b : RoomMember) : Bool :=
  a.id == b.id && a.displayName == b.displayName && a.connectionMode == b.connectionMode &&
    a.roundTripTimeMilliseconds == b.roundTripTimeMilliseconds && lossEq a.packetLossPercent b.packetLossPercent

def NetworkStatus.eq (a b : NetworkStatus) : Bool :=
  a.natType == b.natType && a.connectionMode == b.connectionMode &&
    a.roundTripTimeMilliseconds == b.roundTripTimeMilliseconds && lossEq a.packetLossPercent b.packetLossPercent &&
    a.relayNode == b.relayNode && a.isHealthy == b.isHealthy

end Terracotta
