import Terracotta.Json
/-!
# The plugin's contract records (`PCLN.Terracotta.Contracts`)

A C# reference type is an `Option`: `none` is `null`, which the JSON reader puts where a member is missing.
-/
namespace Terracotta

inductive TerracottaRoomState where
  | idle | waitingForGame | waitingForLan | creating | joining | connected | reconnecting | leaving | faulted
  | diagnosing
deriving DecidableEq, Repr

inductive TerracottaRoomRole where
  | none | host | member
deriving DecidableEq, Repr

inductive TerracottaConnectionMode where
  | unknown | direct | relay
deriving DecidableEq, Repr

structure TerracottaRoomMember where
  id : Option String
  displayName : Option String
  connectionMode : TerracottaConnectionMode
  roundTripTimeMilliseconds : Option Int
  packetLossPercent : Option F64
deriving DecidableEq

structure TerracottaNetworkStatus where
  natType : Option String
  connectionMode : TerracottaConnectionMode
  roundTripTimeMilliseconds : Option Int
  packetLossPercent : Option F64
  relayNode : Option String
  isHealthy : Bool
deriving DecidableEq

structure TerracottaRoomSnapshot where
  state : TerracottaRoomState
  role : TerracottaRoomRole
  roomCode : Option String
  localAddress : Option String
  gameSessionId : Option String
  network : Option TerracottaNetworkStatus
  members : Option (List TerracottaRoomMember)
  errorCode : Option String := none
  errorMessage : Option String := none
deriving DecidableEq

def TerracottaRoomSnapshot.idle : TerracottaRoomSnapshot :=
  { state := .idle, role := .none, roomCode := none, localAddress := none, gameSessionId := none, network := none,
    members := some [] }

structure TerracottaCreateRoomRequest where
  gameSessionId : Option String := none
  lanPort : Option Int := none
  preferDirectConnection : Bool := true
  allowRelay : Bool := true
deriving DecidableEq

structure TerracottaJoinRoomRequest where
  roomCode : Option String
  gameSessionId : Option String := none
  autoCopyConnectAddress : Bool := true
deriving DecidableEq

/-! ## The records as `System.Text.Json` reads them -/

open Json (Options Value toMembers toNullable toStr toBool toInt32 toF64 toList)

def TerracottaRoomState.byName : String → Option TerracottaRoomState
  | "idle" => some .idle
  | "waitingforgame" => some .waitingForGame
  | "waitingforlan" => some .waitingForLan
  | "creating" => some .creating
  | "joining" => some .joining
  | "connected" => some .connected
  | "reconnecting" => some .reconnecting
  | "leaving" => some .leaving
  | "faulted" => some .faulted
  | "diagnosing" => some .diagnosing
  | _ => none

def TerracottaRoomState.byNumber : Int → Option TerracottaRoomState
  | 0 => some .idle
  | 1 => some .waitingForGame
  | 2 => some .waitingForLan
  | 3 => some .creating
  | 4 => some .joining
  | 5 => some .connected
  | 6 => some .reconnecting
  | 7 => some .leaving
  | 8 => some .faulted
  | 9 => some .diagnosing
  | _ => none

def TerracottaRoomRole.byName : String → Option TerracottaRoomRole
  | "none" => some .none
  | "host" => some .host
  | "member" => some .member
  | _ => none

def TerracottaRoomRole.byNumber : Int → Option TerracottaRoomRole
  | 0 => some .none
  | 1 => some .host
  | 2 => some .member
  | _ => none

def TerracottaConnectionMode.byName : String → Option TerracottaConnectionMode
  | "unknown" => some .unknown
  | "direct" => some .direct
  | "relay" => some .relay
  | _ => none

def TerracottaConnectionMode.byNumber : Int → Option TerracottaConnectionMode
  | 0 => some .unknown
  | 1 => some .direct
  | 2 => some .relay
  | _ => none

def TerracottaConnectionMode.read (o : Options) : Value → Option TerracottaConnectionMode :=
  o.enum TerracottaConnectionMode.byName TerracottaConnectionMode.byNumber

def TerracottaRoomMember.read (o : Options) (v : Value) : Option TerracottaRoomMember := do
  let m ← toMembers v
  let id ← o.param m "Id" (toNullable toStr) none
  let displayName ← o.param m "DisplayName" (toNullable toStr) none
  let connectionMode ← o.param m "ConnectionMode" (TerracottaConnectionMode.read o) .unknown
  let roundTripTimeMilliseconds ← o.param m "RoundTripTimeMilliseconds" (toNullable toInt32) none
  let packetLossPercent ← o.param m "PacketLossPercent" (toNullable toF64) none
  return { id, displayName, connectionMode, roundTripTimeMilliseconds, packetLossPercent }

def TerracottaNetworkStatus.read (o : Options) (v : Value) : Option TerracottaNetworkStatus := do
  let m ← toMembers v
  let natType ← o.param m "NatType" (toNullable toStr) none
  let connectionMode ← o.param m "ConnectionMode" (TerracottaConnectionMode.read o) .unknown
  let roundTripTimeMilliseconds ← o.param m "RoundTripTimeMilliseconds" (toNullable toInt32) none
  let packetLossPercent ← o.param m "PacketLossPercent" (toNullable toF64) none
  let relayNode ← o.param m "RelayNode" (toNullable toStr) none
  let isHealthy ← o.param m "IsHealthy" toBool false
  return { natType, connectionMode, roundTripTimeMilliseconds, packetLossPercent, relayNode, isHealthy }

def TerracottaRoomSnapshot.read (o : Options) (v : Value) : Option TerracottaRoomSnapshot := do
  let m ← toMembers v
  let state ← o.param m "State" (o.enum TerracottaRoomState.byName TerracottaRoomState.byNumber) .idle
  let role ← o.param m "Role" (o.enum TerracottaRoomRole.byName TerracottaRoomRole.byNumber) .none
  let roomCode ← o.param m "RoomCode" (toNullable toStr) none
  let localAddress ← o.param m "LocalAddress" (toNullable toStr) none
  let gameSessionId ← o.param m "GameSessionId" (toNullable toStr) none
  let network ← o.param m "Network" (toNullable (TerracottaNetworkStatus.read o)) none
  let members ← o.param m "Members" (toNullable (toList (TerracottaRoomMember.read o))) none
  let errorCode ← o.param m "ErrorCode" (toNullable toStr) none
  let errorMessage ← o.param m "ErrorMessage" (toNullable toStr) none
  return { state, role, roomCode, localAddress, gameSessionId, network, members, errorCode, errorMessage }

end Terracotta
