import Terracotta.IdentityStore
import Terracotta.ProcessManager
import Terracotta.RequestIds
import Terracotta.Run
/-!
# `HelperRoomGateway`

A call of the gateway gets itself a client of a running Helper, gives that Helper the identity unless it has it, and only
then sends its own request.  The controller makes one call at a time, inside its operation gate; `RestartHelperAsync` calls
`StopAsync` beside it, at any time and as often as it likes, and the Helper's process may end whenever it wants.  What goes
over the streams is kept in `log`, oldest first.
-/
namespace Terracotta

open Json (Value)

/-! ## Requests as the plugin writes them -/

def RoomRequest.messageType : RoomRequest → String
  | .initializeIdentity _ => "identity.initialize"
  | .status => "room.status"
  | .leave => "room.leave"
  | .create _ => "room.create"
  | .join _ => "room.join"
  | .setLanAddress _ => "room.set-lan-address"
  | .diagnose => "network.diagnose"

/-- `JsonSerializer.SerializeToElement` of the request records, with the names of `JsonSerializerDefaults.Web`. -/
def RoomRequest.payload : RoomRequest → Value
  | .initializeIdentity key => .obj [("privateKey", .str (toHexString key))]
  | .create request => .obj [("gameSessionId", .str request.gameSessionId), ("lanAddress", .str request.lanAddress),
      ("preferDirect", .bool request.preferDirect), ("allowRelay", .bool request.allowRelay)]
  | .join request => .obj [("roomCode", .str request.roomCode),
      ("gameSessionId", match request.gameSessionId with | some sessionId => .str sessionId | none => .null)]
  | .setLanAddress request => .obj [("lanAddress", .str request.lanAddress)]
  | .status | .leave | .diagnose => .obj []

/-- `IpcEnvelope.Create`. -/
def RoomRequest.envelope (request : RoomRequest) (id : String) : Envelope :=
  ⟨protocolVersion, id, request.messageType, request.payload⟩

/-! ## The gateway -/

/-- `StopAsync`: in the event pump's `DisposeAsync`, or in the manager's `StopAsync`. -/
inductive StopPhase
  | pump
  | manager
deriving DecidableEq

inductive GatewayPhase
  | starting
  | reading (client : Nat)
  | writing (client array : Nat)
  -- `SendAsync` of the identity, before and behind the write of its frame
  | identifying (client array : Nat)
  | identified (client array : Nat)
  -- `SendAsync` of the call's own request
  | requesting (client : Nat)
  | awaiting (client : Nat)
  | stopping (phase : StopPhase)
deriving DecidableEq

/-- The phases in which a call relies on an event of the log. -/
def GatewayPhase.relies : GatewayPhase → Bool
  | .identified _ _ | .requesting _ => true
  | _ => false

inductive GatewayEvent
  | wrote (client : Nat) (request : RoomRequest)
  /-- The gateway has read the reply in which the client's Helper says that it is initialized. -/
  | initialized (client : Nat)
deriving DecidableEq

structure HelperRoomGateway where
  store : SecureIdentityStore
  manager : HelperProcessManager
  initializedClient : Option Nat
  /-- The client whose events the pump reads. -/
  eventPump : Option Nat
  call : Option (RoomRequest × GatewayPhase)
  stops : List StopPhase
  log : List GatewayEvent

inductive GatewayLabel
  | call (request : RoomRequest)
  | started (random : Vector UInt8 32)
  | startFails (launched : Bool) (outcome : StopOutcome)
  | read (random : Vector UInt8 32) (read : SecretRead)
  | written (write : SecretWrite)
  | sendIdentity
  | identityAnswered (initialized : Bool)
  | sendRequest
  | answered
  -- an await of `EnsureStartedAsync` or of a `SendAsync` throws
  | throws
  | stop
  -- a step of the `StopAsync` of the call (`none`) or of one beside it
  | pumpStopped (i : Option Nat)
  | managerStopped (i : Option Nat) (outcome : StopOutcome)
  | processExit (generation : Nat)
  | processEnded (i now : Nat)
  -- the plugin is unloaded and loaded again; clients keep their numbers
  | reload
deriving DecidableEq

namespace HelperRoomGateway

def init (storage : Option (Option (List UInt8))) : HelperRoomGateway :=
  ⟨⟨storage, none, []⟩, .init, none, none, none, [], []⟩

/-- Behind a piece of `GetOrCreateAsync`. -/
def goOn (s : HelperRoomGateway) (request : RoomRequest) (client : Nat) :
    SecureIdentityStore × IdentityOutcome → HelperRoomGateway
  | (store, .reading) => { s with store, call := some (request, .reading client) }
  | (store, .writing array) => { s with store, call := some (request, .writing client array) }
  | (store, .returned array) => { s with store, call := some (request, .identifying client array) }
  | (store, .threw _) => { s with store, call := none }

/-- `EnsureStartedAsync` has returned, and the client is compared with `_initializedClient`. -/
def ensure (s : HelperRoomGateway) (request : RoomRequest) (random : Vector UInt8 32) (client : Nat) :
    HelperRoomGateway :=
  if s.initializedClient = some client then { s with call := some (request, .requesting client) }
  else s.goOn request client (s.store.getOrCreate random)

def step (s : HelperRoomGateway) : GatewayLabel → Option HelperRoomGateway
  | .call request =>
    if s.call = none ∧ request.initializes = false then some { s with call := some (request, .starting) } else none
  | .started random => match s.call with
    | some (request, .starting) =>
      let client := s.manager.client.getD (s.manager.generation + 1)
      some ({ s with manager := s.manager.ensureStarted }.ensure request random client)
    | _ => none
  | .startFails launched outcome => match s.call, s.manager.client with
    | some (_, .starting), none => some { s with manager := s.manager.startFailed launched outcome, call := none }
    | _, _ => none
  | .read random read => match s.call with
    | some (request, .reading client) => (s.store.readReturned random read).map (s.goOn request client)
    | _ => none
  | .written write => match s.call with
    | some (request, .writing client array) => some (s.goOn request client (s.store.writeReturned array write))
    | _ => none
  | .sendIdentity => match s.call with
    | some (request, .identifying client array) =>
      some { s with
        call := some (request, .identified client array)
        log := s.log ++ [.wrote client (.initializeIdentity (s.store.bytes array))] }
    | _ => none
  | .identityAnswered initialized => match s.call with
    | some (request, .identified client array) =>
      -- the `finally` comes before the call's own request
      let s := { s with store := s.store.zeroMemory array }
      if initialized then
        some { s with
          initializedClient := some client, eventPump := some client
          call := some (request, .requesting client), log := s.log ++ [.initialized client] }
      else some { s with call := none }
    | _ => none
  | .sendRequest => match s.call with
    | some (request, .requesting client) =>
      some { s with call := some (request, .awaiting client), log := s.log ++ [.wrote client request] }
    | _ => none
  | .answered => match s.call with
    | some (request, .awaiting _) =>
      if request = .leave then some { s with call := some (request, .stopping .pump), eventPump := none }
      else some { s with call := none }
    | _ => none
  | .throws => match s.call with
    | some (_, .starting) | some (_, .requesting _) | some (_, .awaiting _) => some { s with call := none }
    | some (_, .identifying _ array) | some (_, .identified _ array) =>
      some { s with store := s.store.zeroMemory array, call := none }
    | _ => none
  | .stop => some { s with stops := s.stops ++ [.pump], eventPump := none }
  | .pumpStopped none => match s.call with
    | some (request, .stopping .pump) =>
      some { s with initializedClient := none, call := some (request, .stopping .manager) }
    | _ => none
  | .pumpStopped (some i) =>
    if s.stops[i]? = some .pump then some { s with initializedClient := none, stops := s.stops.set i .manager } else none
  | .managerStopped none outcome => match s.call with
    | some (_, .stopping .manager) => some { s with manager := s.manager.stopCore outcome, call := none }
    | _ => none
  | .managerStopped (some i) outcome =>
    if s.stops[i]? = some .manager then
      some { s with manager := s.manager.stopCore outcome, stops := s.stops.eraseIdx i }
    else none
  | .processExit generation =>
    if generation ∈ s.manager.processes then some { s with manager := s.manager.processExit generation } else none
  | .processEnded i now => match s.manager.ended[i]? with
    | none => none
    | some generation =>
      let m := s.manager.onProcessEnded generation now
      some { s with manager := { m with ended := m.ended.eraseIdx i } }
  | .reload =>
    some { init s.store.storage with
      manager := { HelperProcessManager.init with generation := s.manager.generation }
      log := s.log }

variable {s t : HelperRoomGateway}

section goOn

variable (s : HelperRoomGateway) (request : RoomRequest) (client : Nat)

@[simp] theorem goOn_manager (piece) : (s.goOn request client piece).manager = s.manager := by
  obtain ⟨store, outcome⟩ := piece; cases outcome <;> rfl
@[simp] theorem goOn_store (piece) : (s.goOn request client piece).store = piece.1 := by
  obtain ⟨store, outcome⟩ := piece; cases outcome <;> rfl
@[simp] theorem goOn_initializedClient (piece) :
    (s.goOn request client piece).initializedClient = s.initializedClient := by
  obtain ⟨store, outcome⟩ := piece; cases outcome <;> rfl
@[simp] theorem goOn_eventPump (piece) : (s.goOn request client piece).eventPump = s.eventPump := by
  obtain ⟨store, outcome⟩ := piece; cases outcome <;> rfl
@[simp] theorem goOn_log (piece) : (s.goOn request client piece).log = s.log := by
  obtain ⟨store, outcome⟩ := piece; cases outcome <;> rfl

end goOn

/-! ## The identity comes first -/

/-- What an event needs of the events before it. -/
def Follows (before : List GatewayEvent) : GatewayEvent → Prop
  | .wrote _ (.initializeIdentity _) => True
  | .wrote client _ => .initialized client ∈ before
  | .initialized client => ∃ key, .wrote client (.initializeIdentity key) ∈ before

/-- **Every Helper is introduced before it is asked for anything.** -/
def Introduced (log : List GatewayEvent) : Prop :=
  ∀ before event after, log = before ++ event :: after → Follows before event

theorem Introduced.snoc {log : List GatewayEvent} {event : GatewayEvent} (h : Introduced log)
    (hevent : Follows log event) : Introduced (log ++ [event]) := by
  intro before e after heq
  rcases List.append_eq_append_iff.1 heq with ⟨mid, hbefore, hlast⟩ | ⟨mid, hlog, hlast⟩
  · cases mid with
    | nil =>
      obtain ⟨rfl, -⟩ := List.cons.inj hlast
      rw [hbefore, List.append_nil]
      exact hevent
    | cons x mid =>
      have hlen := congrArg List.length hlast
      simp at hlen
  · cases mid with
    | nil =>
      obtain ⟨rfl, -⟩ := List.cons.inj hlast
      rw [List.append_nil] at hlog
      exact hlog ▸ hevent
    | cons x mid =>
      obtain ⟨rfl, -⟩ := List.cons.inj hlast
      exact h before _ mid hlog

/-- **What a gateway may rely on**: the log is in order, and whoever is taken for initialized said so. -/
structure Introduces (s : HelperRoomGateway) : Prop where
  log : Introduced s.log
  client : ∀ c, s.initializedClient = some c → .initialized c ∈ s.log
  pump : ∀ c, s.eventPump = some c → .initialized c ∈ s.log
  identified : ∀ request c array, s.call = some (request, .identified c array) →
    ∃ key, .wrote c (.initializeIdentity key) ∈ s.log
  requesting : ∀ request c, s.call = some (request, .requesting c) → .initialized c ∈ s.log

/-- A step that logs nothing, takes nobody for initialized and enters no phase that relies on the log. -/
theorem Introduces.keep (h : s.Introduces) (hlog : t.log = s.log)
    (hclient : t.initializedClient = s.initializedClient ∨ t.initializedClient = none)
    (hpump : t.eventPump = s.eventPump ∨ t.eventPump = none)
    (hcall : t.call = s.call ∨ ∀ request phase, t.call = some (request, phase) → phase.relies = false) : t.Introduces where
  log := hlog ▸ h.log
  client c hc := by
    rw [hlog]
    rcases hclient with heq | heq <;> rw [heq] at hc
    · exact h.client c hc
    · cases hc
  pump c hc := by
    rw [hlog]
    rcases hpump with heq | heq <;> rw [heq] at hc
    · exact h.pump c hc
    · cases hc
  identified request c array ht := by
    rw [hlog]
    rcases hcall with heq | hno
    · exact h.identified request c array (heq ▸ ht)
    · cases hno _ _ ht
  requesting request c ht := by
    rw [hlog]
    rcases hcall with heq | hno
    · exact h.requesting request c (heq ▸ ht)
    · cases hno _ _ ht

theorem goOn_relies (s : HelperRoomGateway) (request : RoomRequest) (client : Nat) (piece) (r : RoomRequest)
    (phase : GatewayPhase) (h : (s.goOn request client piece).call = some (r, phase)) : phase.relies = false := by
  obtain ⟨store, outcome⟩ := piece
  cases outcome <;> cases h <;> rfl

theorem init_introduces (storage) : (init storage).Introduces where
  log before event after h := by cases before <;> cases h
  client c h := by cases h
  pump c h := by cases h
  identified request c array h := by cases h
  requesting request c h := by cases h

theorem step_introduces (l : GatewayLabel) (h : s.Introduces) (hstep : step s l = some t) : t.Introduces := by
  cases l with
  | call request =>
    simp only [step] at hstep
    split at hstep
    · cases hstep
      exact h.keep rfl (.inl rfl) (.inl rfl) (.inr fun r phase hr => by cases hr; rfl)
    · cases hstep
  | started random =>
    simp only [step] at hstep
    split at hstep
    · rename_i request hcall
      cases hstep
      unfold ensure
      split
      · rename_i hclient
        -- the client that is known to be initialized
        exact { h with
          identified := fun r c array hr => by cases hr
          requesting := fun r c hr => by cases hr; exact h.client _ hclient }
      · exact h.keep (by simp) (.inl (by simp)) (.inl (by simp)) (.inr (goOn_relies _ _ _ _))
    · cases hstep
  | startFails launched outcome =>
    simp only [step] at hstep
    split at hstep
    · cases hstep
      exact h.keep rfl (.inl rfl) (.inl rfl) (.inr fun r phase hr => by cases hr)
    · cases hstep
  | read random read =>
    simp only [step] at hstep
    split at hstep
    · obtain ⟨piece, -, rfl⟩ := Option.map_eq_some_iff.1 hstep
      exact h.keep (by simp) (.inl (by simp)) (.inl (by simp)) (.inr (goOn_relies _ _ _ _))
    · cases hstep
  | written write =>
    simp only [step] at hstep
    split at hstep
    · cases hstep
      exact h.keep (by simp) (.inl (by simp)) (.inl (by simp)) (.inr (goOn_relies _ _ _ _))
    · cases hstep
  | sendIdentity =>
    simp only [step] at hstep
    split at hstep
    · rename_i request client array hcall
      cases hstep
      exact {
        log := h.log.snoc trivial
        client := fun c hc => List.mem_append_left _ (h.client c hc)
        pump := fun c hc => List.mem_append_left _ (h.pump c hc)
        identified := fun r c a hr => by
          cases hr
          exact ⟨_, List.mem_append_right _ (List.mem_singleton_self _)⟩
        requesting := fun r c hr => by cases hr }
    · cases hstep
  | identityAnswered initialized =>
    simp only [step] at hstep
    split at hstep
    · rename_i request client array hcall
      split at hstep
      · cases hstep
        have hlast : GatewayEvent.initialized client ∈ s.log ++ [.initialized client] :=
          List.mem_append_right _ (List.mem_singleton_self _)
        exact {
          log := h.log.snoc (h.identified request client array hcall)
          client := fun c hc => by cases hc; exact hlast
          pump := fun c hc => by cases hc; exact hlast
          identified := fun r c a hr => by cases hr
          requesting := fun r c hr => by cases hr; exact hlast }
      · cases hstep
        exact h.keep rfl (.inl rfl) (.inl rfl) (.inr fun r phase hr => by cases hr)
    · cases hstep
  | sendRequest =>
    simp only [step] at hstep
    split at hstep
    · rename_i request client hcall
      cases hstep
      have hknown := h.requesting request client hcall
      exact {
        log := h.log.snoc (by cases request <;> first | exact trivial | exact hknown)
        client := fun c hc => List.mem_append_left _ (h.client c hc)
        pump := fun c hc => List.mem_append_left _ (h.pump c hc)
        identified := fun r c a hr => by cases hr
        requesting := fun r c hr => by cases hr }
    · cases hstep
  | answered =>
    simp only [step] at hstep
    split at hstep
    · split at hstep
      · cases hstep
        exact h.keep rfl (.inl rfl) (.inr rfl) (.inr fun r phase hr => by cases hr; rfl)
      · cases hstep
        exact h.keep rfl (.inl rfl) (.inl rfl) (.inr fun r phase hr => by cases hr)
    · cases hstep
  | throws =>
    simp only [step] at hstep
    split at hstep <;> cases hstep <;> exact h.keep rfl (.inl rfl) (.inl rfl) (.inr fun r phase hr => by cases hr)
  | stop =>
    cases hstep
    exact h.keep rfl (.inl rfl) (.inr rfl) (.inl rfl)
  | pumpStopped i =>
    cases i with
    | none =>
      simp only [step] at hstep
      split at hstep
      · cases hstep
        exact h.keep rfl (.inr rfl) (.inl rfl) (.inr fun r phase hr => by cases hr; rfl)
      · cases hstep
    | some i =>
      simp only [step] at hstep
      split at hstep
      · cases hstep
        exact h.keep rfl (.inr rfl) (.inl rfl) (.inl rfl)
      · cases hstep
  | managerStopped i outcome =>
    cases i with
    | none =>
      simp only [step] at hstep
      split at hstep
      · cases hstep
        exact h.keep rfl (.inl rfl) (.inl rfl) (.inr fun r phase hr => by cases hr)
      · cases hstep
    | some i =>
      simp only [step] at hstep
      split at hstep
      · cases hstep
        exact h.keep rfl (.inl rfl) (.inl rfl) (.inl rfl)
      · cases hstep
  | processExit generation =>
    simp only [step] at hstep
    split at hstep
    · cases hstep
      exact h.keep rfl (.inl rfl) (.inl rfl) (.inl rfl)
    · cases hstep
  | processEnded i now =>
    simp only [step] at hstep
    split at hstep
    · cases hstep
    · cases hstep
      exact h.keep rfl (.inl rfl) (.inl rfl) (.inl rfl)
  | reload =>
    cases hstep
    exact h.keep rfl (.inr rfl) (.inr rfl) (.inr fun r phase hr => by cases hr)

/-- **In every run a Helper is asked for nothing before it has said that it is initialized**, whatever is stopped,
restarted, refused or cancelled beside the calls, and no events are read of one that has not said so. -/
theorem requests_follow_identity (storage : Option (Option (List UInt8))) (labels : List GatewayLabel)
    (s : HelperRoomGateway) (h : Run.run step (init storage) labels = some s) :
    Introduced s.log ∧ ∀ client, s.eventPump = some client → .initialized client ∈ s.log := by
  have hs : s.Introduces := Run.invariant_all Introduces (fun _ l _ hi ht => step_introduces l hi ht)
    (init_introduces storage) h
  exact ⟨hs.log, hs.pump⟩

def sampleKey : Vector UInt8 32 := Vector.replicate 32 7

/-- A diagnosis with an empty storage, a restart of the Helper, and a status request of the new one. -/
def twoHelpers : List GatewayLabel :=
  [.call .diagnose, .started sampleKey, .read sampleKey .notFound, .written .success, .sendIdentity,
    .identityAnswered true, .sendRequest, .answered, .stop, .pumpStopped (some 0), .managerStopped (some 0) .completed,
    .call .status, .started sampleKey, .read sampleKey .success, .sendIdentity, .identityAnswered true, .sendRequest]

theorem both_helpers_are_introduced : ∃ s, Run.run step (init (some none)) twoHelpers = some s ∧
    s.log = [.wrote 1 (.initializeIdentity sampleKey.toList), .initialized 1, .wrote 1 .diagnose,
      .wrote 2 (.initializeIdentity sampleKey.toList), .initialized 2, .wrote 2 .status] ∧
    Introduced s.log ∧ ∀ client, s.eventPump = some client → .initialized client ∈ s.log := by
  refine ⟨_, rfl, rfl, ?_⟩
  exact requests_follow_identity (some none) twoHelpers _ rfl

end HelperRoomGateway

end Terracotta
