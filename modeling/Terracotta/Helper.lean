import Terracotta.RoomService
import Terracotta.Wire
import Terracotta.Sessions
/-!
# The Helper behind its IPC session, and the plugin's end of one request

`Helper` is a Helper process as the plugin meets it: the room service, the requests it has not handled yet and the
responses the plugin has not read yet.  Requests are handled one at a time, in the order of their arrival.
-/
namespace Terracotta

open Json (Options Value toMembers toNullable toStr)

inductive HelperRequest
  | create (request : CreateRoomRequest)
  | join (request : JoinRoomRequest)
  | leave
  | status
  | diagnose
deriving DecidableEq

/-- The response type the gateway expects, and the Helper writes on success. -/
def HelperRequest.responseType : HelperRequest → String
  | .create _ => "room.created"
  | .join _ => "room.joined"
  | .leave => "room.left"
  | .status => "room.status.result"
  | .diagnose => "diagnostic.updated"

def HelperRequest.opens : HelperRequest → Bool
  | .create _ | .join _ => true
  | _ => false

/-- What the network backend answers while one request is handled. -/
structure BackendAnswers where
  room : Except RoomError BackendRoom
  refresh : Except RoomError BackendRefresh
  network : Except RoomError NetworkStatus
  left : Except RoomError Unit

structure Helper where
  alive : Bool
  room : RoomService
  inbox : List (String × HelperRequest)
  responses : List Envelope

def Helper.launched : Helper := ⟨true, .new, [], []⟩

/-- `send_room_error`. -/
def RoomError.toValue (error : RoomError) : Value :=
  .obj [("code", .str error.code), ("message", .str error.message), ("retryable", .bool error.retryable)]

/-- `write_response` of a result, or `send_room_error`. -/
def respond {α : Type} (id : String) (request : HelperRequest) (payload : α → Value) : Except RoomError α → Envelope
  | .ok a => .response id request.responseType (payload a)
  | .error error => .response id "error" error.toValue

/-- The room requests of `handle_request`. -/
def RoomService.handle (svc : RoomService) (id : String) (request : HelperRequest) (answers : BackendAnswers) :
    RoomService × Envelope :=
  match request with
  | .create body =>
    let (svc, result) := svc.create body answers.room
    (svc, respond id request RoomSnapshot.toValue result)
  | .join body =>
    let (svc, result) := svc.join body answers.room
    (svc, respond id request RoomSnapshot.toValue result)
  | .leave =>
    let (svc, result) := svc.leave answers.left
    (svc, respond id request RoomSnapshot.toValue result)
  | .status =>
    let (svc, snapshot) := svc.status answers.refresh
    (svc, respond id request RoomSnapshot.toValue (.ok snapshot))
  | .diagnose =>
    let (svc, result) := svc.diagnose answers.refresh answers.network
    (svc, respond id request NetworkStatus.toValue result)

def Helper.receive (h : Helper) (id : String) (request : HelperRequest) : Helper :=
  { h with inbox := h.inbox ++ [(id, request)] }

/-- No request of this session had the id. -/
def Helper.fresh (h : Helper) (id : String) : Bool :=
  h.inbox.all (fun entry => entry.1 ≠ id) && h.responses.all (fun response => response.id ≠ id)

def Helper.handle (h : Helper) (answers : BackendAnswers) : Option Helper :=
  match h.alive, h.inbox with
  | true, (id, request) :: inbox =>
    let (room, response) := h.room.handle id request answers
    some { h with room, inbox, responses := h.responses ++ [response] }
  | _, _ => none

def Helper.poll (h : Helper) (refresh : Except RoomError BackendRefresh) : Helper :=
  { h with room := h.room.pollAndEmit refresh }

/-! ## Exceptions -/

/-- The exceptions the controller tells apart, with their messages. -/
inductive Exn
  | canceled
  | secureIdentity (message : String)
  | fileNotFound (message : String)
  | helperProtocol (code : Option String) (message : String)
  | other (message : String)
deriving DecidableEq, Repr

def Exn.ofHelperError (code : Option String) (message : String) : Exn :=
  .helperProtocol code (if isNullOrWhiteSpace code then message else code.getD "" ++ ": " ++ message)

def Exn.message : Exn → String
  | .canceled => "A task was canceled."
  | .secureIdentity m | .fileNotFound m | .helperProtocol _ m | .other m => m

/-! ## The rest of `HelperIpcClient.SendAsync`, once the response is there -/

/-- The text of a `JsonException` is the runtime's. -/
def readPayload {α : Type} (jsonMessage : String) : Option α → Except Exn α
  | none => .error (.other jsonMessage)
  | some a => .ok a

/-- The `code` and `message` of a `HelperError` payload. -/
def readHelperError (v : Value) : Option (Option String × Option String) := do
  let m ← toMembers v
  let code ← Options.web.param m "Code" (toNullable toStr) none
  let message ← Options.web.param m "Message" (toNullable toStr) none
  return (code, message)

/-- The envelope a call may read its payload from, or the exception it ends in. -/
def checkResponse (jsonMessage : String) (expected : String) (inbound : Envelope) : Except Exn Envelope :=
  if inbound.protocol ≠ protocolVersion then
    .error (.helperProtocol none ("Unsupported Helper protocol version: " ++ toString inbound.protocol ++ "."))
  else if inbound.messageType = "error" then
    match readHelperError inbound.payload with
    | none => .error (.other jsonMessage)
    | some (code, message) => .error (Exn.ofHelperError code (message.getD ""))
  else if inbound.messageType ≠ expected then
    .error (.helperProtocol none ("Unexpected Helper response type: " ++ inbound.messageType ++ "."))
  else .ok inbound

end Terracotta
