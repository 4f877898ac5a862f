import Terracotta.Snapshot
import Terracotta.SocketAddr
import Terracotta.Text
import Terracotta.Run
/-!
# The Helper's room service (`room/service.rs`)

`RoomService` keeps one snapshot and the members it last announced, behind two locks, and asks a `RoomBackend` for
everything else.  Each operation is written as the pieces the source runs under one lock, with the backend's answers as
arguments, and then as the whole call.  `Settled` is what every call leaves behind, whatever the backend answers.
-/
namespace Terracotta

open Net (SocketAddr)

def RoomError.invalid (message : String) : RoomError := ⟨"room.invalid-request", message, false⟩

def RoomError.busy : RoomError := ⟨"room.operation-in-progress", "A room operation is already in progress.", false⟩

/-! ## Validation -/

def validateSessionId (value : String) : Except RoomError String :=
  let value := Text.trim value.toList
  if value = [] ∨ 128 < Text.utf8Len value ∨ value.any Text.isControl then
    .error (RoomError.invalid "The game session ID must contain 1 to 128 non-control characters.")
  else .ok (String.ofList value)

def validateLoopbackAddress (value : String) : Except RoomError SocketAddr :=
  match SocketAddr.parse value with
  | none => .error (RoomError.invalid "The LAN address must be a valid IP endpoint.")
  | some address =>
    if !address.ip.isLoopback || address.port == 0 then
      .error (RoomError.invalid "The LAN address must use a loopback IP and a non-zero port.")
    else .ok address

/-- What `normalize_room_code` keeps of a code: hyphens and blanks dropped, ASCII letters raised. -/
def compactRoomCode (value : List Char) : List Char := (value.filter (fun c => c ≠ '-' ∧ c ≠ ' ')).map Char.toUpper

/-- `format!("{}-{}-{}", ..)` on the three slices of the compact code. -/
def formatRoomCode (compact : List Char) : List Char :=
  compact.take 4 ++ '-' :: (compact.drop 4).take 4 ++ '-' :: (compact.drop 8).take 4

/-- `normalize_room_code`.  The length is in bytes, and a byte of a character outside ASCII is never alphanumeric. -/
def normalizeRoomCode (value : String) : Except RoomError String :=
  let compact := compactRoomCode value.toList
  if Text.utf8Len compact ≠ 12 ∨ !compact.all Char.isAlphanum then
    .error ⟨"room.invalid-code", "The room code must contain three groups of four ASCII letters or digits.", false⟩
  else .ok (String.ofList (formatRoomCode compact))

def validateOption {α β : Type} (check : α → Except RoomError β) : Option α → Except RoomError (Option β)
  | none => .ok none
  | some a => (check a).map some

def validateBackendRoom (room : BackendRoom) (requireLocalAddress : Bool) : Except RoomError BackendRoom := do
  let roomCode ← normalizeRoomCode room.roomCode
  let localAddress ← validateOption validateLoopbackAddress room.localAddress
  if requireLocalAddress ∧ localAddress = none then
    .error ⟨"network.forward-missing", "The network backend did not provide a local Minecraft address.", false⟩
  else return { room with roomCode, localAddress := localAddress.map SocketAddr.toString }

/-! ## The service -/

/-- `HashMap<String, RoomMember>`, as the list of its entries. -/
abbrev MemberTable := List (String × RoomMember)

def MemberTable.insert (table : MemberTable) (member : RoomMember) : MemberTable :=
  (member.id, member) :: table.filter (fun e => e.1 ≠ member.id)

def MemberTable.of (members : List RoomMember) : MemberTable := members.foldl MemberTable.insert []

/-- `RoomService`: the snapshot, the announced members, and what was published on the event bus, oldest first. -/
structure RoomService where
  state : RoomSnapshot
  knownMembers : MemberTable
  published : List RoomEvent
deriving DecidableEq

def RoomService.new : RoomService := ⟨.idle, [], []⟩

def RoomService.publish (svc : RoomService) (event : RoomEvent) : RoomService :=
  { svc with published := svc.published ++ [event] }

/-! ### `create` and `join` -/

/-- `create` up to its backend call: the requests' fields checked, then the idle state taken. -/
def RoomService.createBegin (svc : RoomService) (request : CreateRoomRequest) :
    Except RoomError (RoomService × CreateRoomRequest) := do
  let gameSessionId ← validateSessionId request.gameSessionId
  let lanAddress ← validateLoopbackAddress request.lanAddress
  if svc.state.state ≠ .idle then .error RoomError.busy
  else
    return ({ svc with state := .pending .creating .host (some gameSessionId) },
      { request with gameSessionId, lanAddress := lanAddress.toString })

/-- `join` up to its backend call. -/
def RoomService.joinBegin (svc : RoomService) (request : JoinRoomRequest) :
    Except RoomError (RoomService × JoinRoomRequest) := do
  let roomCode ← normalizeRoomCode request.roomCode
  let gameSessionId ← validateOption validateSessionId request.gameSessionId
  if svc.state.state ≠ .idle then .error RoomError.busy
  else return ({ svc with state := .pending .joining .member gameSessionId }, { roomCode, gameSessionId })

/-- What `create` and `join` do with the backend's answer: a checked room is stored and announced, anything else is
stored as a fault. -/
def RoomService.openFinish (svc : RoomService) (role : RoomRole) (gameSessionId : Option String)
    (requireLocalAddress : Bool) (answer : Except RoomError BackendRoom) :
    RoomService × Except RoomError RoomSnapshot :=
  match answer.bind (fun room => validateBackendRoom room requireLocalAddress) with
  | .error error => ({ svc with state := .faulted role gameSessionId error }, .error error)
  | .ok room =>
    let snapshot : RoomSnapshot :=
      { state := .connected
        role
        roomCode := some room.roomCode
        localAddress := room.localAddress
        gameSessionId
        network := some room.network
        members := room.members
        errorCode := none
        errorMessage := none }
    (RoomService.publish { svc with state := snapshot, knownMembers := .of room.members } (.stateChanged snapshot),
      .ok snapshot)

def RoomService.create (svc : RoomService) (request : CreateRoomRequest) (answer : Except RoomError BackendRoom) :
    RoomService × Except RoomError RoomSnapshot :=
  match svc.createBegin request with
  | .error error => (svc, .error error)
  | .ok (svc, request) => svc.openFinish .host (some request.gameSessionId) false answer

def RoomService.join (svc : RoomService) (request : JoinRoomRequest) (answer : Except RoomError BackendRoom) :
    RoomService × Except RoomError RoomSnapshot :=
  match svc.joinBegin request with
  | .error error => (svc, .error error)
  | .ok (svc, request) => svc.openFinish .member request.gameSessionId true answer

/-! ### `poll_and_emit` -/

/-- A refreshed network: stored, announced where it is new, and the connected state moved with its health.  The state
change is announced with the snapshot as it stands here, before address and members are stored. -/
def applyNetwork (state : RoomSnapshot) (network : NetworkStatus) : RoomSnapshot × List RoomEvent :=
  let emitNetwork := if state.network.any (·.eq network) then [] else [RoomEvent.networkUpdated network]
  let state := { state with network := some network }
  if !network.isHealthy && state.state == .connected then
    let state := { state with state := .reconnecting }
    (state, emitNetwork ++ [.stateChanged state])
  else if network.isHealthy && state.state == .reconnecting then
    let state := { state with state := .connected }
    (state, emitNetwork ++ [.stateChanged state])
  else (state, emitNetwork)

/-- The part of `poll_and_emit` under the state lock: the new snapshot and the network and state events to publish. -/
def pollState (state : RoomSnapshot) (refresh : BackendRefresh) : RoomSnapshot × List RoomEvent :=
  let (state, events) := match refresh.network with
    | none => (state, [])
    | some network => applyNetwork state network
  ({ state with
      localAddress := refresh.localAddress.or state.localAddress
      members := refresh.members.getD state.members }, events)

/-- The part under the member lock: what changed against the announced members. -/
def memberEvents (known : MemberTable) (members : List RoomMember) : List RoomEvent :=
  members.filterMap (fun member => match known.lookup member.id with
    | none => some (.peerJoined member)
    | some previous => if previous.eq member then none else some (.peerUpdated member)) ++
  ((known.map Prod.fst).filter (fun id => id ∉ members.map (·.id))).map .peerLeft

def RoomService.pollAndEmit (svc : RoomService) (refresh : Except RoomError BackendRefresh) : RoomService :=
  match refresh with
  | .error _ => svc
  | .ok refresh =>
    if svc.state.state = .connected ∨ svc.state.state = .reconnecting ∨ svc.state.state = .diagnosing then
      let (state, events) := pollState svc.state refresh
      match refresh.members with
      | none => { svc with state, published := svc.published ++ events }
      | some members =>
        { state, knownMembers := .of members
          published := svc.published ++ memberEvents svc.knownMembers members ++ events }
    else svc

def RoomService.status (svc : RoomService) (refresh : Except RoomError BackendRefresh) : RoomService × RoomSnapshot :=
  let svc := svc.pollAndEmit refresh
  (svc, svc.state)

/-! ### `set_lan_address`, `diagnose`, `leave` -/

def RoomService.setLanAddress (svc : RoomService) (request : SetLanAddressRequest) (answer : Except RoomError Unit)
    (refresh : Except RoomError BackendRefresh) : RoomService × Except RoomError RoomSnapshot :=
  match validateLoopbackAddress request.lanAddress with
  | .error error => (svc, .error error)
  | .ok _ =>
    if svc.state.state ≠ .connected ∨ svc.state.role ≠ .host then
      (svc, .error ⟨"room.not-host", "Only a connected room host can change the LAN address.", false⟩)
    else match answer with
      | .error error => (svc, .error error)
      | .ok () => let (svc, snapshot) := svc.status refresh; (svc, .ok snapshot)

/-- `diagnose` up to its backend calls: the state to come back to, with `Diagnosing` stored. -/
def RoomService.diagnoseBegin (svc : RoomService) : Except RoomError (RoomService × RoomState) :=
  if svc.state.state ≠ .connected ∧ svc.state.state ≠ .reconnecting then
    .error ⟨"room.not-connected", "Network diagnostics require an active room.", false⟩
  else .ok ({ svc with state := { svc.state with state := .diagnosing } }, svc.state.state)

/-- `diagnose` after its backend calls: a refresh that has a network is enough, else the backend's own diagnosis. -/
def RoomService.diagnoseFinish (svc : RoomService) (previous : RoomState) (refresh : BackendRefresh)
    (answer : Except RoomError NetworkStatus) : RoomService × Except RoomError NetworkStatus :=
  match refresh.network with
  | some network =>
    ({ svc with state := { svc.state with
        state := previous
        network := some network
        members := refresh.members.getD svc.state.members
        localAddress := refresh.localAddress.or svc.state.localAddress } }, .ok network)
  | none => match answer with
    | .ok network => ({ svc with state := { svc.state with state := previous, network := some network } }, .ok network)
    | .error error => ({ svc with state := .faulted svc.state.role svc.state.gameSessionId error }, .error error)

/-- `RoomService::diagnose`; a failed refresh counts as an empty one. -/
def RoomService.diagnose (svc : RoomService) (refresh : Except RoomError BackendRefresh)
    (answer : Except RoomError NetworkStatus) : RoomService × Except RoomError NetworkStatus :=
  match svc.diagnoseBegin with
  | .error error => (svc, .error error)
  | .ok (svc, previous) => svc.diagnoseFinish previous (refresh.toOption.getD {}) answer

def RoomService.leave (svc : RoomService) (answer : Except RoomError Unit) :
    RoomService × Except RoomError RoomSnapshot :=
  if svc.state.state = .idle then (svc, .ok svc.state)
  else if svc.state.state = .leaving then (svc, .error RoomError.busy)
  else match answer with
    | .ok () =>
      (RoomService.publish { svc with state := .idle, knownMembers := [] } (.stateChanged .idle), .ok .idle)
    | .error error => ({ svc with state := .faulted svc.state.role svc.state.gameSessionId error }, .error error)

inductive RoomCall where
  | create (request : CreateRoomRequest) (answer : Except RoomError BackendRoom)
  | join (request : JoinRoomRequest) (answer : Except RoomError BackendRoom)
  | setLanAddress (request : SetLanAddressRequest) (answer : Except RoomError Unit)
      (refresh : Except RoomError BackendRefresh)
  | diagnose (refresh : Except RoomError BackendRefresh) (answer : Except RoomError NetworkStatus)
  | leave (answer : Except RoomError Unit)
  | status (refresh : Except RoomError BackendRefresh)
  | pollAndEmit (refresh : Except RoomError BackendRefresh)

def RoomService.step (svc : RoomService) : RoomCall → RoomService
  | .create request answer => (svc.create request answer).1
  | .join request answer => (svc.join request answer).1
  | .setLanAddress request answer refresh => (svc.setLanAddress request answer refresh).1
  | .diagnose refresh answer => (svc.diagnose refresh answer).1
  | .leave answer => (svc.leave answer).1
  | .status refresh => (svc.status refresh).1
  | .pollAndEmit refresh => svc.pollAndEmit refresh

/-- The service after calls run one at a time, as `session::run` runs them. -/
def RoomService.runCalls (svc : RoomService) (calls : List RoomCall) : RoomService := calls.foldl RoomService.step svc

end Terracotta
