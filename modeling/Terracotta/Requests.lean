import Terracotta.FrameStream
import Terracotta.JsonText
import Terracotta.Helper
import Terracotta.Session
/-!
# The requests of one session (`ipc/session.rs`)

`handle_request` checks a request five times before it looks at its type, and writes one reply whatever comes of it.
A session is what the loop keeps between requests, with what it has written; `Session.step` is one turn of the loop on
whole frames.  What `serde_json` does with bytes and doubles is a parameter, and so are the bytes the transport takes.
-/
namespace Terracotta

open Json (Value structFields readString readBool readOptionString)

/-! ## Payloads -/

def CreateRoomRequest.fromValue (v : Value) : Option CreateRoomRequest :=
  match structFields ["gameSessionId", "lanAddress", "preferDirect", "allowRelay"] v with
  | some [gameSessionId, lanAddress, preferDirect, allowRelay] => do
    return { gameSessionId := ← readString gameSessionId, lanAddress := ← readString lanAddress,
             preferDirect := ← readBool preferDirect, allowRelay := ← readBool allowRelay }
  | _ => none

def JoinRoomRequest.fromValue (v : Value) : Option JoinRoomRequest :=
  match structFields ["roomCode", "gameSessionId"] v with
  | some [roomCode, gameSessionId] => do
    return { roomCode := ← readString roomCode, gameSessionId := ← readOptionString gameSessionId }
  | _ => none

def SetLanAddressRequest.fromValue (v : Value) : Option SetLanAddressRequest :=
  match structFields ["lanAddress"] v with
  | some [lanAddress] => do return { lanAddress := ← readString lanAddress }
  | _ => none

/-- `IdentityInitializeRequest`, as its one field. -/
def identityFromValue (v : Value) : Option String :=
  match structFields ["privateKey"] v with
  | some [privateKey] => readString privateKey
  | _ => none

/-- A digit of `u8::from_str_radix(_, 16)`. -/
def hexValue (c : Char) : Option Nat :=
  if '0' ≤ c ∧ c ≤ '9' then some (c.toNat - 48)
  else if 'a' ≤ c ∧ c ≤ 'f' then some (c.toNat - 87)
  else if 'A' ≤ c ∧ c ≤ 'F' then some (c.toNat - 55)
  else none

/-- `u8::from_str_radix` on two bytes, the first of which may be a sign. -/
def hexByte (a b : Char) : Option UInt8 := do
  let low ← hexValue b
  if a = '+' then return UInt8.ofNat low
  else
    let high ← hexValue a
    return UInt8.ofNat (16 * high + low)

def hexBytes : List Char → Option (List UInt8)
  | [] => some []
  | [_] => none
  | a :: b :: rest => do return (← hexByte a b) :: (← hexBytes rest)

/-- `decode_identity`.  The length is in bytes, and no byte of a character outside ASCII is a digit. -/
def decodeIdentity (privateKey : String) : Option (List UInt8) :=
  if Text.utf8Len privateKey.toList ≠ 64 then none else hexBytes privateKey.toList

/-- `valid_request_id`.  A byte of a character outside ASCII is above `0x7e`. -/
def validRequestId (value : String) : Bool :=
  !value.toList.isEmpty && decide (Text.utf8Len value.toList ≤ 128) &&
    value.toList.all (fun c => decide (0x20 ≤ c.toNat) && decide (c.toNat ≤ 0x7e))

/-! ## Replies -/

/-- `MAX_REQUEST_IDS`. -/
def maxRequestIds : Nat := 4096

/-- `send_error`. -/
def errorReply (id code message : String) (retryable : Bool) : Envelope :=
  .response id "error" (RoomError.toValue ⟨code, message, retryable⟩)

/-- The calls `handle_request` makes of the room service. -/
inductive RoomRequest where
  | initializeIdentity (privateKey : List UInt8)
  | status
  | leave
  | create (request : CreateRoomRequest)
  | join (request : JoinRoomRequest)
  | setLanAddress (request : SetLanAddressRequest)
  | diagnose
deriving DecidableEq

/-- What the backend answers while one request is handled. -/
structure SessionAnswers extends BackendAnswers where
  lanAddress : Except RoomError Unit

/-- What the dispatch on the type of a message comes to: a call, an error without one, or the end. -/
inductive Dispatch where
  | call (request : RoomRequest)
  | refuse (code message : String)
  | shutdown

def Dispatch.ofPayload {α : Type} (messageType : String) (request : α → RoomRequest) : Option α → Dispatch
  | some a => .call (request a)
  | none => .refuse "room.invalid-request" ("The " ++ messageType ++ " payload is invalid.")

/-- The dispatch of `handle_request`, up to the call. -/
def Envelope.dispatch (request : Envelope) : Dispatch :=
  if request.messageType = "identity.initialize" then
    match identityFromValue request.payload with
    | none => .refuse "identity.invalid-request" "The identity.initialize payload is invalid."
    | some privateKey => match decodeIdentity privateKey with
      | none => .refuse "identity.invalid-key" "The identity private key must be a 32-byte hexadecimal value."
      | some key => .call (.initializeIdentity key)
  else if request.messageType = "room.status" then .call .status
  else if request.messageType = "room.leave" then .call .leave
  else if request.messageType = "room.create" then
    .ofPayload "room.create" .create (CreateRoomRequest.fromValue request.payload)
  else if request.messageType = "room.join" then
    .ofPayload "room.join" .join (JoinRoomRequest.fromValue request.payload)
  else if request.messageType = "room.set-lan-address" then
    .ofPayload "room.set-lan-address" .setLanAddress (SetLanAddressRequest.fromValue request.payload)
  else if request.messageType = "network.diagnose" then .call .diagnose
  else if request.messageType = "shutdown" then .shutdown
  else .refuse "ipc.unknown-message-type" "Unsupported request type."

/-- `write_response` of what a call returned, or `send_room_error`. -/
def reply {α : Type} (id messageType : String) (payload : α → Value) : Except RoomError α → Envelope
  | .ok a => .response id messageType (payload a)
  | .error error => errorReply id error.code error.message error.retryable

/-- A call of the room service, and the reply to the request. -/
def RoomService.serve (room : RoomService) (id : String) (answers : SessionAnswers) : RoomRequest → RoomService × Envelope
  | .initializeIdentity _ => (room, .response id "identity.initialized" (.obj [("initialized", .bool true)]))
  | .status =>
    let (room, snapshot) := room.status answers.refresh
    (room, .response id "room.status.result" snapshot.toValue)
  | .leave =>
    let (room, result) := room.leave answers.left
    (room, reply id "room.left" RoomSnapshot.toValue result)
  | .create request =>
    let (room, result) := room.create request answers.room
    (room, reply id "room.created" RoomSnapshot.toValue result)
  | .join request =>
    let (room, result) := room.join request answers.room
    (room, reply id "room.joined" RoomSnapshot.toValue result)
  | .setLanAddress request =>
    let (room, result) := room.setLanAddress request answers.lanAddress answers.refresh
    (room, reply id "room.state-changed" RoomSnapshot.toValue result)
  | .diagnose =>
    let (room, result) := room.diagnose answers.refresh answers.network
    (room, reply id "diagnostic.updated" NetworkStatus.toValue result)

/-! ## The session -/

/-- The parts of `serde_json` that are not modelled, and how many bytes the transport takes before its writes fail. -/
structure Wiring where
  fromSlice : List UInt8 → Option Envelope
  printReal : F64 → List Char
  capacity : Option Nat

/-- The JSON text of an envelope; its payload is a `Value`, whose objects are sorted. -/
def Envelope.text (printReal : F64 → List Char) (e : Envelope) : List Char :=
  "\x7b\"protocol\":".toList ++ (toString e.protocol).toList ++ ",\"id\":".toList ++ Json.writeStr e.id ++
    ",\"type\":".toList ++ Json.writeStr e.messageType ++ ",\"payload\":".toList ++
    Json.write printReal (Json.sortKeys e.payload) ++ ['\x7d']

/-- `serde_json::to_vec`. -/
def Envelope.toVec (printReal : F64 → List Char) (e : Envelope) : List UInt8 := Text.utf8 (e.text printReal)

def Wiring.toVec (w : Wiring) (e : Envelope) : List UInt8 := e.toVec w.printReal

/-- What the loop keeps, what it has written, and what has happened so far. -/
structure Session where
  requestIds : List String -- a `HashSet`: no id twice
  identity : Option (List UInt8)
  room : RoomService
  eventSequence : Nat
  frames : List Envelope -- the frames written whole
  torn : List UInt8 -- what the transport took of the frame that failed
  dispatched : List Envelope -- the requests that reached the dispatch
  calls : List (String × RoomRequest) -- the calls made of the room service, with the request's id
  ended : Option (Except FrameError SessionOutcome)

/-- `CAPABILITIES`. -/
def capabilities : List String :=
  ["identity.initialize", "room.create", "room.join", "room.leave", "room.status", "room.set-lan-address",
    "network.diagnose", "events.push", "shutdown"]

/-- The reply to an accepted hello; `CARGO_PKG_VERSION` is that of `Cargo.toml`. -/
def helloAccepted (id : String) : Envelope :=
  .response id "hello.accepted"
    (.obj [("helperVersion", .str "0.1.0"), ("capabilities", .arr (capabilities.map .str))])

/-- The session behind an accepted hello, at the start of its loop. -/
def Session.opened (room : RoomService) (helloId : String) : Session :=
  { requestIds := [helloId], identity := none, room, eventSequence := 0, frames := [helloAccepted helloId], torn := [],
    dispatched := [], calls := [], ended := none }

namespace Session

/-- The output so far. -/
def output (w : Wiring) (s : Session) : List UInt8 := Frames.encodeAll (s.frames.map w.toVec) ++ s.torn

/-- `write_frame`, and how the session goes on: with `outcome`, unless the write fails. -/
def write (w : Wiring) (s : Session) (e : Envelope) (outcome : Option SessionOutcome) : Session :=
  match writeFrame w.toVec e with
  | .error error => { s with ended := some (.error error) }
  | .ok bytes =>
    let taken := match w.capacity with
      | none => bytes.length
      | some capacity => capacity - (s.output w).length
    if bytes.length ≤ taken then { s with frames := s.frames ++ [e], ended := outcome.map .ok }
    else { s with torn := s.torn ++ bytes.take taken, ended := some (.error .io) }

/-- A call of the room service; the identity is kept here too. -/
def serve (w : Wiring) (s : Session) (id : String) (request : RoomRequest) (answers : SessionAnswers) : Session :=
  let (room, response) := s.room.serve id answers request
  let identity := match request with
    | .initializeIdentity key => some key
    | _ => s.identity
  write w { s with room, identity, calls := s.calls ++ [(id, request)] } response none

/-- The dispatch of `handle_request` on the type of a request. -/
def dispatch (w : Wiring) (s : Session) (request : Envelope) (answers : SessionAnswers) : Session :=
  let s := { s with dispatched := s.dispatched ++ [request] }
  match request.dispatch with
  | .call call => s.serve w request.id call answers
  | .refuse code message => s.write w (errorReply request.id code message false) none
  | .shutdown => s.write w (.response request.id "shutdown.accepted" (.obj [])) (some .shutdownRequested)

/-- `handle_request`. -/
def handleRequest (w : Wiring) (s : Session) (request : Envelope) (answers : SessionAnswers) : Session :=
  if request.protocol ≠ protocolVersion then
    s.write w (errorReply request.id "ipc.protocol-mismatch" "The IPC protocol version is not supported." false) none
  else if !validRequestId request.id then
    s.write w (errorReply request.id "ipc.invalid-request-id" "The request ID is invalid." false) none
  else if maxRequestIds ≤ s.requestIds.length then
    s.write w (errorReply request.id "ipc.request-limit" "The IPC session request limit was reached." false)
      (some .peerDisconnected)
  else if request.id ∈ s.requestIds then
    s.write w (errorReply request.id "ipc.duplicate-request-id" "The request ID was already used in this session." false)
      none
  else
    let s := { s with requestIds := s.requestIds ++ [request.id] }
    if (request.messageType = "room.create" ∨ request.messageType = "room.join") ∧ s.identity = none then
      s.write w (errorReply request.id "identity.not-initialized"
        "Initialize the secure identity before entering a room." false) none
    else s.dispatch w request answers

end Session

/-- What the loop's `select!` wakes up for. -/
inductive SessionLabel where
  | request (request : Envelope) (answers : SessionAnswers)
  | readError (error : FrameError)
  | tick (refresh : Except RoomError BackendRefresh)
  | event (event : RoomEvent)
  | lagged
  | closed

namespace Session

/-- One turn of the loop. -/
def step (w : Wiring) (s : Session) (label : SessionLabel) : Option Session :=
  match s.ended with
  | some _ => none
  | none => match label with
    | .request request answers => some (s.handleRequest w request answers)
    | .readError .endOfStream => some { s with ended := some (.ok .peerDisconnected) }
    | .readError error => some { s with ended := some (.error error) }
    | .tick refresh => some { s with room := s.room.pollAndEmit refresh }
    | .event event =>
      let sequence := (s.eventSequence + 1) % 18446744073709551616
      some ({ s with eventSequence := sequence }.write w (writeEvent sequence event) none)
    | .lagged => some s
    | .closed => some { s with ended := some (.ok .peerDisconnected) }

/-- A backend that has no room and no answer. -/
def silentAnswers : SessionAnswers :=
  { room := .error RoomError.busy, refresh := .ok {}, network := .error RoomError.busy, left := .ok (), lanAddress := .ok () }

/-- The digits of the only double in these runs. -/
def printZero (_ : F64) : List Char := "0.0".toList

/-- A transport that takes everything. -/
def openWiring : Wiring := ⟨statusFromSlice, printZero, none⟩

end Session

end Terracotta
