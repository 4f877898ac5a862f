import Mathlib
import Terracotta.RoomInvariant
/-!
# Room calls at the same time (`room/service.rs`)

`RoomService` is shared, and a call holds a lock only for one section at a time: it gives the state lock back before it
waits for its backend and takes it again to store what came of it.  Here a call is a thread with a program counter, one
step is one section under a lock or the return of one backend call, and a schedule says whose step is next.  What the
backend answers a call is part of the call.
-/
namespace Terracotta

/-! ## The calls, one after another -/

/-- A call of the service, with what the backend answers it. -/
inductive ServiceCall where
  | create (request : CreateRoomRequest) (answer : Except RoomError BackendRoom)
  | join (request : JoinRoomRequest) (answer : Except RoomError BackendRoom)
  | diagnose (refresh : Except RoomError BackendRefresh) (answer : Except RoomError NetworkStatus)
  | leave (answer : Except RoomError Unit)
  | pollAndEmit (refresh : Except RoomError BackendRefresh)
deriving DecidableEq

/-- What a call returns; `poll_and_emit` returns nothing. -/
inductive CallResult where
  | room (result : Except RoomError RoomSnapshot)
  | network (result : Except RoomError NetworkStatus)
  | unit
deriving DecidableEq

namespace ServiceCall

/-- The call alone, from its start to its end. -/
def run (svc : RoomService) : ServiceCall → RoomService × CallResult
  | .create request answer => ((svc.create request answer).1, .room (svc.create request answer).2)
  | .join request answer => ((svc.join request answer).1, .room (svc.join request answer).2)
  | .diagnose refresh answer => ((svc.diagnose refresh answer).1, .network (svc.diagnose refresh answer).2)
  | .leave answer => ((svc.leave answer).1, .room (svc.leave answer).2)
  | .pollAndEmit refresh => (svc.pollAndEmit refresh, .unit)

/-- `Err(error)` in the call's own type. -/
def failed (error : RoomError) : ServiceCall → CallResult
  | .diagnose _ _ => .network (.error error)
  | .pollAndEmit _ => .unit
  | _ => .room (.error error)

end ServiceCall

/-- The service and the results after calls in sequence. -/
def runSerial : RoomService → List ServiceCall → RoomService × List CallResult
  | svc, [] => (svc, [])
  | svc, call :: calls =>
    let (svc, result) := call.run svc
    let (svc, results) := runSerial svc calls
    (svc, result :: results)

/-! ## The calls, section by section -/

/-- Where a call is: the section it enters next, or the backend call it waits for, with its local variables. -/
inductive CallPc where
  | start
  -- `poll_and_emit`: the backend has refreshed, the state lock is next
  | polled
  -- `poll_and_emit`: the member lock is next
  | announcing (members : List RoomMember) (events : List RoomEvent)
  -- `create` and `join`: in the backend call
  | opening (role : RoomRole) (gameSessionId : Option String) (requireLocalAddress : Bool)
  -- `create` and `join`: `replace_known_members` is next
  | replacing (snapshot : RoomSnapshot)
  -- `create` and `join`: the snapshot is stored next
  | storing (snapshot : RoomSnapshot)
  -- `diagnose`: in `backend.refresh`
  | refreshing (previous : RoomState)
  -- `diagnose`: in `backend.diagnose`
  | diagnosing (previous : RoomState)
  -- `diagnose`: the state it found is put back next
  | restoring (previous : RoomState) (network : NetworkStatus) (members : Option (List RoomMember))
      (localAddress : Option String)
  -- `leave`: in `backend.leave`
  | leaving
  -- `leave`: the idle snapshot is stored next
  | storingIdle
  -- `leave`: the member lock is next
  | clearing
  -- `diagnose` and `leave`: the backend has failed, the snapshot is read next
  | reading (error : RoomError)
  -- the fault is stored next
  | faulting (role : RoomRole) (gameSessionId : Option String) (error : RoomError)
  | done (result : CallResult)
deriving DecidableEq

/-- The snapshot that `create` and `join` store of a checked room. -/
def openedSnapshot (role : RoomRole) (gameSessionId : Option String) (room : BackendRoom) : RoomSnapshot :=
  { state := .connected
    role
    roomCode := some room.roomCode
    localAddress := room.localAddress
    gameSessionId
    network := some room.network
    members := room.members
    errorCode := none
    errorMessage := none }

/-- `diagnose` puts the state it found back, with what it learned. -/
def RoomSnapshot.restore (state : RoomSnapshot) (previous : RoomState) (network : NetworkStatus)
    (members : Option (List RoomMember)) (localAddress : Option String) : RoomSnapshot :=
  { state with
    state := previous
    network := some network
    members := members.getD state.members
    localAddress := localAddress.or state.localAddress }

namespace ServiceCall

/-- **One section of a call**, or the return of its backend call; `none` when the call has returned. -/
def advance (svc : RoomService) : ServiceCall → CallPc → Option (RoomService × CallPc)
  | .create request _, .start => match svc.createBegin request with
    | .error error => some (svc, .done (.room (.error error)))
    | .ok (svc, request) => some (svc, .opening .host (some request.gameSessionId) false)
  | .join request _, .start => match svc.joinBegin request with
    | .error error => some (svc, .done (.room (.error error)))
    | .ok (svc, request) => some (svc, .opening .member request.gameSessionId true)
  | .create _ answer, .opening role gameSessionId requireLocalAddress
  | .join _ answer, .opening role gameSessionId requireLocalAddress =>
    match answer.bind (fun room => validateBackendRoom room requireLocalAddress) with
    | .error error => some (svc, .faulting role gameSessionId error)
    | .ok room => some (svc, .replacing (openedSnapshot role gameSessionId room))
  | .create _ _, .replacing snapshot | .join _ _, .replacing snapshot =>
    some ({ svc with knownMembers := .of snapshot.members }, .storing snapshot)
  | .create _ _, .storing snapshot | .join _ _, .storing snapshot =>
    some (RoomService.publish { svc with state := snapshot } (.stateChanged snapshot), .done (.room (.ok snapshot)))
  | .diagnose _ _, .start => match svc.diagnoseBegin with
    | .error error => some (svc, .done (.network (.error error)))
    | .ok (svc, previous) => some (svc, .refreshing previous)
  | .diagnose refresh _, .refreshing previous =>
    let refresh := refresh.toOption.getD {}
    match refresh.network with
    | some network => some (svc, .restoring previous network refresh.members refresh.localAddress)
    | none => some (svc, .diagnosing previous)
  | .diagnose _ answer, .diagnosing previous => match answer with
    | .ok network => some (svc, .restoring previous network none none)
    | .error error => some (svc, .reading error)
  | .diagnose _ _, .restoring previous network members localAddress =>
    some ({ svc with state := svc.state.restore previous network members localAddress }, .done (.network (.ok network)))
  | .leave _, .start =>
    if svc.state.state = .idle then some (svc, .done (.room (.ok svc.state)))
    else if svc.state.state = .leaving then some (svc, .done (.room (.error RoomError.busy)))
    else some ({ svc with state := { svc.state with state := .leaving } }, .leaving)
  | .leave answer, .leaving => match answer with
    | .ok () => some (svc, .storingIdle)
    | .error error => some (svc, .reading error)
  | .leave _, .storingIdle => some ({ svc with state := .idle }, .clearing)
  | .leave _, .clearing =>
    some (RoomService.publish { svc with knownMembers := [] } (.stateChanged .idle), .done (.room (.ok .idle)))
  | .diagnose _ _, .reading error | .leave _, .reading error =>
    -- the lock is given back between the read and the write
    some (svc, .faulting svc.state.role svc.state.gameSessionId error)
  | .pollAndEmit refresh, .start => match refresh with
    | .error _ => some (svc, .done .unit)
    | .ok _ => some (svc, .polled)
  | .pollAndEmit (.ok refresh), .polled =>
    if svc.state.state = .connected ∨ svc.state.state = .reconnecting ∨ svc.state.state = .diagnosing then
      let (state, events) := pollState svc.state refresh
      match refresh.members with
      | none => some ({ svc with state, published := svc.published ++ events }, .done .unit)
      | some members => some ({ svc with state }, .announcing members events)
    else some (svc, .done .unit)
  | .pollAndEmit _, .announcing members events =>
    some ({ svc with
      knownMembers := .of members
      published := svc.published ++ memberEvents svc.knownMembers members ++ events }, .done .unit)
  | call, .faulting role gameSessionId error =>
    some ({ svc with state := .faulted role gameSessionId error }, .done (call.failed error))
  | _, _ => none

end ServiceCall

/-- The shared service and the calls that run on it. -/
structure SharedService where
  service : RoomService
  threads : List (ServiceCall × CallPc)

namespace SharedService

def start (svc : RoomService) (calls : List ServiceCall) : SharedService := ⟨svc, calls.map (·, .start)⟩

/-- The thread the schedule names takes its next step. -/
def step (s : SharedService) (i : Nat) : Option SharedService :=
  match s.threads[i]? with
  | none => none
  | some (call, pc) => (call.advance s.service pc).map fun (service, pc) => ⟨service, s.threads.set i (call, pc)⟩

/-- The calls that have returned, with their results. -/
def returned (s : SharedService) : List (ServiceCall × CallResult) :=
  s.threads.filterMap fun (call, pc) => match pc with
    | .done result => some (call, result)
    | _ => none

end SharedService

end Terracotta
