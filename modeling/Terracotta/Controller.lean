import Terracotta.Helper
import Terracotta.StateMachine
import Mathlib.Tactic.Tauto
/-!
# `TerracottaController`

The controller's fields, the tasks it has queued and the calls that wait for `_operationGate`.  A method is cut at its
awaits: each piece between two of them runs without interruption, as a function that returns the new fields and how the
piece ends (`Outcome`).  The methods that take no gate (callbacks, `PublishFault` of a refused room code) are single
pieces.
-/
namespace Terracotta

/-! ## Faults -/

namespace ErrorCodeCatalog

def noRunningGame : String := "TC-GAME-001"
def lanPortUnavailable : String := "TC-GAME-002"
def helperMissing : String := "TC-HELPER-001"
def helperDisconnected : String := "TC-IPC-002"
def invalidRoomCode : String := "TC-ROOM-001"
def networkUnavailable : String := "TC-NET-001"
def easyTierMissing : String := "TC-NET-002"
def easyTierStartFailed : String := "TC-NET-003"
def peerUnreachable : String := "TC-NET-004"
def meshIngressFailed : String := "TC-NET-005"
def secureStorageUnavailable : String := "TC-SEC-001"

end ErrorCodeCatalog

open ErrorCodeCatalog

def mapHelperErrorCode : Option String → String
  | some "network.easytier-missing" => easyTierMissing
  | some "network.easytier-start-failed" | some "network.easytier-stop-failed" => easyTierStartFailed
  | some "network.peer-unreachable" => peerUnreachable
  | some "network.mesh-ingress-failed" => meshIngressFailed
  | some "room.invalid-code" => invalidRoomCode
  | some "identity.not-initialized" | some "identity.invalid-key" => secureStorageUnavailable
  | none | some "" => helperDisconnected
  | some code =>
    if "network.".toList <+: code.toList then networkUnavailable
    else if "ipc.".toList <+: code.toList then helperDisconnected
    else networkUnavailable

def Exn.faultCode : Exn → String
  | .secureIdentity _ => secureStorageUnavailable
  | .fileNotFound _ => helperMissing
  | .helperProtocol code _ => mapHelperErrorCode code
  | _ => networkUnavailable

/-! ## The controller's state -/

/-- What the host and the text functions give the controller: `SensitiveDataRedactor.Redact`,
`LanAddressResolver.TryResolvePort`, whether a clipboard service is there, and the text of a `JsonException`. -/
structure Host where
  redact : String → String
  tryResolvePort : Option String → Option Int
  clipboard : Bool
  jsonMessage : String

/-- What `ListSessions` and the output service show when a piece runs; `output` is `none` without the service. -/
structure Scene where
  sessions : List PluginGameSessionSnapshot
  output : Option (String → List String)

structure TerracottaSettings where
  autoDetectGameSession : Bool := true
  autoCloseOnGameExit : Bool := true
  autoCopyRoomCode : Bool := true
  autoCopyConnectAddress : Bool := true
  lastSelectedInstanceId : Option String := none
deriving DecidableEq, Repr

structure RecoveryIntent where
  role : TerracottaRoomRole
  roomCode : Option String
  gameSessionId : Option String
  lanAddress : Option String
  preferDirect : Bool
  allowRelay : Bool
deriving DecidableEq, Repr

/-- A call in `_operationGate.WaitAsync`; a refresh of the poll loop carries the loop's number, a diagnosis whether
`RunDiagnoseCommandAsync` made it. -/
inductive Op
  | create (request : TerracottaCreateRoomRequest)
  | join (request : TerracottaJoinRoomRequest) (code : String)
  | leave
  | refresh (poll : Option Nat)
  | diagnose (command : Bool)
  | recover (intent : RecoveryIntent)
deriving DecidableEq

inductive Task
  | loadSettings
  | resumeCreate (request : TerracottaCreateRoomRequest)
  | refresh
  | leave
  | recover
deriving DecidableEq

/-- A call of `HelperRoomGateway`, with what the method that made it goes on with. -/
inductive Call
  | create (request : TerracottaCreateRoomRequest) (sessionId lanAddress : String)
  | join (request : TerracottaJoinRoomRequest) (code : String)
  | leave
  | refresh (poll : Option Nat)
  | diagnose (previous : TerracottaRoomState) (command : Bool)
  | recover (request : HelperRequest)
deriving DecidableEq

/-- How far a gateway call is: before a client is there, before the identity is initialized, or with its request
sent. -/
inductive CallPhase
  | starting
  | initializing (client : Nat)
  | sent (client : Nat) (id : String)
deriving DecidableEq

inductive Stopping
  | leaveWaiting
  | leaveRoom
  | recover (intent : RecoveryIntent)
deriving DecidableEq

inductive Copies
  | roomCode
  | connectAddress (wanted : Bool)
deriving DecidableEq

/-- The await the holder of the gate is suspended in. -/
inductive Await
  | calling (call : Call) (phase : CallPhase)
  | stopping (stop : Stopping)
  | saving (copies : Copies)
  | copying
deriving DecidableEq

/-- How a piece ends: at an await, at the end of the method, or by an exception. -/
inductive Outcome
  | wait (await : Await)
  | done
  | threw (e : Exn)

/-- The poll loop of the current `_statusPollCts`, and whether it sits in its delay. -/
structure StatusPoll where
  number : Nat
  delaying : Bool
deriving DecidableEq

structure TerracottaController where
  stateMachine : TerracottaRoomState
  snapshot : TerracottaRoomSnapshot
  pendingCreate : Option TerracottaCreateRoomRequest
  settings : TerracottaSettings
  statusPoll : Option StatusPoll
  recovery : Option RecoveryIntent
  operationSequence : Nat
  queued : List Task
  waiting : List Op
  gate : Option Await
  -- `RestartHelperAsync` calls in their `StopAsync`.
  restarts : Nat
  -- `RunDiagnoseCommandAsync` calls whose diagnosis threw and whose handler has not run.
  failedCommands : List Exn

namespace TerracottaController

def init : TerracottaController :=
  { stateMachine := .idle, snapshot := .idle, pendingCreate := none, settings := {}, statusPoll := none
    recovery := none, operationSequence := 1, queued := [.loadSettings], waiting := [], gate := none, restarts := 0
    failedCommands := [] }

/-! ## Small methods -/

def publish (c : TerracottaController) (snapshot : TerracottaRoomSnapshot) : TerracottaController :=
  { c with snapshot }

def transitionTo (c : TerracottaController) (next : TerracottaRoomState) : Except Exn TerracottaController :=
  match RoomStateMachine.transitionTo c.stateMachine next with
  | .error message => .error (.other message)
  | .ok state => .ok { c with stateMachine := state }

def queueOperation (c : TerracottaController) (task : Task) : TerracottaController :=
  { c with operationSequence := c.operationSequence + 1, queued := c.queued ++ [task] }

/-- `StopStatusPolling`: a refresh of the cancelled loop that waits for the gate stops waiting. -/
def stopStatusPolling (c : TerracottaController) : TerracottaController :=
  match c.statusPoll with
  | none => c
  | some poll =>
    { c with statusPoll := none, waiting := c.waiting.filter (fun op => op ≠ .refresh (some poll.number)) }

def startStatusPolling (c : TerracottaController) : TerracottaController :=
  let c := c.stopStatusPolling
  { c with
    statusPoll := some ⟨c.operationSequence + 1, true⟩
    operationSequence := c.operationSequence + 1 }

/-- The poll loop goes back to its delay after a refresh it made. -/
def resumePoll (c : TerracottaController) (poll : Option Nat) : TerracottaController :=
  { c with statusPoll := c.statusPoll.map (fun p => if poll = some p.number then { p with delaying := true } else p) }

def resetFaultIfNeeded (c : TerracottaController) : Except Exn TerracottaController :=
  if c.stateMachine = .faulted then c.transitionTo .idle else .ok c

def publishFault (c : TerracottaController) (code message : String) : TerracottaController :=
  match if c.stateMachine ≠ .faulted then c.transitionTo .faulted else .ok c with
  | .error _ => c
  | .ok c => c.publish { c.snapshot with state := .faulted, errorCode := some code, errorMessage := some message }

def fault (host : Host) (c : TerracottaController) (e : Exn) : TerracottaController :=
  c.publishFault e.faultCode (host.redact e.message)

/-- `TransitionAndPublish`, the last piece of a create that has to wait. -/
def transitionAndPublish (c : TerracottaController) (state : TerracottaRoomState) (gameSessionId : Option String)
    (errorCode errorMessage : Option String) : TerracottaController × Outcome :=
  match c.transitionTo state with
  | .error e => (c, .threw e)
  | .ok c =>
    (c.publish { state, role := .none, roomCode := none, localAddress := none, gameSessionId, network := none
                 members := some [], errorCode, errorMessage }, .done)

/-! ## `CreateAsync` -/

def resolveLanPort (host : Host) (scene : Scene) (session : PluginGameSessionSnapshot) : Option Int :=
  match host.tryResolvePort session.lanAddress with
  | some port => some port
  | none => match scene.output with
    | none => none
    | some read => (read session.sessionId).reverse.findSome? (fun text => host.tryResolvePort (some text))

/-- From the gate to the gateway call. -/
def createEnter (host : Host) (scene : Scene) (request : TerracottaCreateRoomRequest) (c : TerracottaController) :
    TerracottaController × Outcome :=
  match c.resetFaultIfNeeded with
  | .error e => (c, .threw e)
  | .ok c =>
    if c.stateMachine ≠ .idle ∧ c.stateMachine ≠ .waitingForGame ∧ c.stateMachine ≠ .waitingForLan then
      (c, .threw (.other "A Terracotta room operation is already active."))
    else
      let selection := GameSessionCoordinator.select scene.sessions request.gameSessionId
        c.settings.lastSelectedInstanceId c.settings.autoDetectGameSession
      match selection.selected with
      | none =>
        transitionAndPublish { c with pendingCreate := some request } .waitingForGame none (some noRunningGame)
          selection.reason
      | some session =>
        match request.lanPort.or (resolveLanPort host scene session) with
        | none =>
          transitionAndPublish { c with pendingCreate := some { request with gameSessionId := some session.sessionId } }
            .waitingForLan (some session.sessionId) (some lanPortUnavailable)
            (some "请在 Minecraft 中打开局域网世界，陶瓦会自动继续。")
        | some port =>
          let c := { c with pendingCreate := none }
          match c.transitionTo .creating with
          | .error e => (c, .threw e)
          | .ok c =>
            match toLoopbackAddress port with
            | .error message => (c, .threw (.other message))
            | .ok address =>
              (c.publish { state := .creating, role := .host, roomCode := none, localAddress := some address
                           gameSessionId := some session.sessionId, network := none, members := some [] },
                .wait (.calling (.create request session.sessionId address) .starting))

/-- `PersistSelectedSessionAsync` up to its await. -/
def selectSession (c : TerracottaController) (sessionId : String) : TerracottaController :=
  { c with settings := { c.settings with lastSelectedInstanceId := some sessionId } }

/-- After the gateway call. -/
def createConnected (request : TerracottaCreateRoomRequest) (sessionId lanAddress : String)
    (connected : TerracottaRoomSnapshot) (c : TerracottaController) : TerracottaController × Outcome :=
  match c.transitionTo .connected with
  | .error e => (c, .threw e)
  | .ok c =>
    let c := c.publish { connected with state := .connected }
    let c := { c with recovery := some { role := .host, roomCode := connected.roomCode, gameSessionId := some sessionId
                                         lanAddress := some lanAddress, preferDirect := request.preferDirectConnection
                                         allowRelay := request.allowRelay } }
    (c.startStatusPolling.selectSession sessionId, .wait (.saving .roomCode))

/-- After `SaveAsync`, of a create or a join: `CopyRoomCodeAsync` or `CopyConnectAddressAsync` up to its await. -/
def copy (host : Host) (copies : Copies) (c : TerracottaController) : TerracottaController × Outcome :=
  let text := match copies with
    | .roomCode => if c.settings.autoCopyRoomCode then c.snapshot.roomCode else none
    | .connectAddress wanted =>
      if wanted && c.settings.autoCopyConnectAddress then c.snapshot.localAddress else none
  (c, if text.isSome && host.clipboard then .wait .copying else .done)

/-! ## `JoinAsync` -/

def joinEnter (request : TerracottaJoinRoomRequest) (code : String) (c : TerracottaController) :
    TerracottaController × Outcome :=
  match c.resetFaultIfNeeded with
  | .error e => (c, .threw e)
  | .ok c =>
    if c.stateMachine ≠ .idle then (c, .threw (.other "A Terracotta room operation is already active."))
    else match c.transitionTo .joining with
      | .error e => (c, .threw e)
      | .ok c =>
        (c.publish { state := .joining, role := .member, roomCode := some code, localAddress := none
                     gameSessionId := request.gameSessionId, network := none, members := some [] },
          .wait (.calling (.join request code) .starting))

def joinConnected (host : Host) (request : TerracottaJoinRoomRequest) (code : String)
    (connected : TerracottaRoomSnapshot) (c : TerracottaController) : TerracottaController × Outcome :=
  match c.transitionTo .connected with
  | .error e => (c, .threw e)
  | .ok c =>
    let c := c.publish { connected with state := .connected }
    let c := { c with recovery := some { role := .member, roomCode := connected.roomCode.or (some code)
                                         gameSessionId := connected.gameSessionId.or request.gameSessionId
                                         lanAddress := connected.localAddress, preferDirect := true
                                         allowRelay := true } }
    let c := c.startStatusPolling
    match connected.gameSessionId with
    | some sessionId => (c.selectSession sessionId, .wait (.saving (.connectAddress request.autoCopyConnectAddress)))
    | none => c.copy host (.connectAddress request.autoCopyConnectAddress)

/-! ## `LeaveAsync` -/

/-- What a leave drops first: the poll loop, the recovery intent and the pending create. -/
def forgotten (c : TerracottaController) : TerracottaController :=
  { c.stopStatusPolling with recovery := none, pendingCreate := none }

def leaveEnter (c : TerracottaController) : TerracottaController × Outcome :=
  let c := c.forgotten
  if c.stateMachine = .idle then (c, .done)
  else if c.stateMachine = .waitingForGame ∨ c.stateMachine = .waitingForLan ∨ c.stateMachine = .faulted then
    match c.transitionTo .idle with
    | .error e => (c, .threw e)
    | .ok c => (c.publish .idle, .wait (.stopping .leaveWaiting))
  else match c.transitionTo .leaving with
    | .error e => (c, .threw e)
    | .ok c => (c.publish { c.snapshot with state := .leaving }, .wait (.calling .leave .starting))

/-- After the gateway left the room and stopped the Helper. -/
def leaveStopped (c : TerracottaController) : TerracottaController × Outcome :=
  match c.transitionTo .idle with
  | .error e => (c, .threw e)
  | .ok c => (c.publish .idle, .done)

/-! ## `RefreshStatusAsync` and `DiagnoseAsync` -/

def refreshAnswered (helper : TerracottaRoomSnapshot) (c : TerracottaController) : TerracottaController × Outcome :=
  if helper.state = .connected ∨ helper.state = .reconnecting then
    (c.publish { helper with state := if c.stateMachine = .diagnosing then .diagnosing else helper.state }, .done)
  else if helper.state = .faulted then
    let c := c.stopStatusPolling
    match c.transitionTo .faulted with
    | .error e => (c, .threw e)
    | .ok c => (c.publish helper, .done)
  else (c, .done)

def diagnoseEnter (command : Bool) (c : TerracottaController) : TerracottaController × Outcome :=
  if !c.snapshot.state.live then
    (c, .threw (.other "Network diagnostics require an active Terracotta room."))
  else
    let previous := c.stateMachine
    if previous ≠ .diagnosing then
      match c.transitionTo .diagnosing with
      | .error e => (c, .threw e)
      | .ok c =>
        (c.publish { c.snapshot with state := .diagnosing }, .wait (.calling (.diagnose previous command) .starting))
    else (c, .wait (.calling (.diagnose previous command) .starting))

def diagnoseAnswered (previous : TerracottaRoomState) (network : TerracottaNetworkStatus) (c : TerracottaController) :
    TerracottaController × Outcome :=
  match if c.stateMachine = .diagnosing ∧ previous ≠ .diagnosing then
      c.transitionTo (if previous = .reconnecting then .reconnecting else .connected) else .ok c with
  | .error e => (c, .threw e)
  | .ok c => (c.publish { c.snapshot with state := c.stateMachine, network := some network }, .done)

/-! ## `RecoverAfterHelperCrashAsync` -/

/-- After its `StopAsync`. -/
def recoverStopped (intent : RecoveryIntent) (c : TerracottaController) : TerracottaController × Outcome :=
  if intent.role = .host then
    match intent.gameSessionId, intent.lanAddress with
    | some sessionId, some address =>
      if isNullOrWhiteSpace (some sessionId) || isNullOrWhiteSpace (some address) then
        (c, .threw (.other "Host recovery requires a session and LAN address."))
      else
        (c, .wait (.calling (.recover (.create
          { gameSessionId := sessionId, lanAddress := address, preferDirect := intent.preferDirect
            allowRelay := intent.allowRelay })) .starting))
    | _, _ => (c, .threw (.other "Host recovery requires a session and LAN address."))
  else match intent.roomCode with
    | some code =>
      if isNullOrWhiteSpace (some code) then (c, .threw (.other "Member recovery requires a room code."))
      else
        (c, .wait (.calling (.recover (.join { roomCode := code, gameSessionId := intent.gameSessionId })) .starting))
    | none => (c, .threw (.other "Member recovery requires a room code."))

def recoverConnected (connected : TerracottaRoomSnapshot) (c : TerracottaController) :
    TerracottaController × Outcome :=
  match if c.stateMachine ≠ .connected then c.transitionTo .connected else .ok c with
  | .error e => (c, .threw e)
  | .ok c =>
    ((c.publish { connected with state := .connected, errorCode := none, errorMessage := none }).startStatusPolling,
      .done)

/-! ## Callbacks -/

/-- The state of a room whose Helper is gone: an illegal transition keeps the current one. -/
def toReconnecting (c : TerracottaController) : TerracottaController :=
  if c.stateMachine.live then
    match if c.stateMachine ≠ .reconnecting then c.transitionTo .reconnecting else .ok c with
    | .error _ => c
    | .ok c => c
  else c

def exitMessage (willAutoRestart : Bool) : String :=
  if willAutoRestart then "陶瓦核心异常退出，正在尝试自动恢复房间。" else "陶瓦核心连续异常退出，请手动重启联机。"

def interrupted (willAutoRestart : Bool) (c : TerracottaController) : TerracottaController :=
  let c := c.stopStatusPolling.toReconnecting
  c.publish { c.snapshot with
    state := .reconnecting
    errorCode := some helperDisconnected
    errorMessage := some (exitMessage willAutoRestart) }

def onHelperProcessExited (willAutoRestart : Bool) (c : TerracottaController) : TerracottaController :=
  if c.snapshot.state = .idle ∨ c.snapshot.state = .leaving then c
  else
    let c := c.interrupted willAutoRestart
    if willAutoRestart && c.recovery.isSome then c.queueOperation .recover
    else c.publishFault helperDisconnected "陶瓦核心不可用，房间已中断。"

def applyHelperSnapshot (snapshot : TerracottaRoomSnapshot) (c : TerracottaController) : TerracottaController :=
  if snapshot.state = .idle then
    { c.stopStatusPolling with stateMachine := RoomStateMachine.resetToIdle c.stateMachine }.publish .idle
  else if snapshot.state = .faulted then
    let c := c.stopStatusPolling
    match if c.stateMachine ≠ .faulted then c.transitionTo .faulted else .ok c with
    | .error _ => c
    | .ok c => c.publish snapshot
  else if snapshot.state = .connected ∨ snapshot.state = .reconnecting then
    let c := if c.stateMachine ≠ snapshot.state ∧ RoomStateMachine.canTransitionTo c.stateMachine snapshot.state then
        match c.transitionTo snapshot.state with
        | .error _ => c
        | .ok c => c
      else c
    let c := c.publish { snapshot with
      state := if c.stateMachine = .diagnosing then .diagnosing else snapshot.state }
    if c.statusPoll.isNone then c.startStatusPolling else c
  else c

/-- `OnHelperPushEvent`: an envelope that does not decode is logged and dropped. -/
def onHelperPushEvent (envelope : Envelope) (c : TerracottaController) : TerracottaController :=
  match envelope.messageType with
  | "room.state-changed" => match pushSnapshot envelope with
    | none => c
    | some snapshot => c.applyHelperSnapshot snapshot
  | "network.updated" => match pushNetwork envelope with
    | none => c
    | some network =>
      if c.snapshot.state.live then
        let next : TerracottaRoomState := if network.isHealthy then .connected else .reconnecting
        match if c.stateMachine ≠ next ∧ (c.stateMachine = .connected ∨ c.stateMachine = .reconnecting) then
            c.transitionTo next else .ok c with
        | .error _ => c
        | .ok c => c.publish { c.snapshot with state := c.stateMachine, network := some network }
      else c
  | "peer.joined" | "peer.updated" | "peer.left" => c.queueOperation .refresh
  | _ => c

def onGameOutput (host : Host) (sessionId text : String) (c : TerracottaController) : TerracottaController :=
  match c.pendingCreate with
  | none => c
  | some pending =>
    if c.stateMachine = .waitingForLan ∧ pending.gameSessionId = some sessionId then
      match host.tryResolvePort (some text) with
      | none => c
      | some port => c.queueOperation (.resumeCreate { pending with lanPort := some port })
    else c

def onLaunchEvent (sessionId : String) (state : PluginGameSessionState) (c : TerracottaController) :
    TerracottaController :=
  match if state = .running ∧ c.stateMachine = .waitingForGame then c.pendingCreate else none with
  | some pending => c.queueOperation (.resumeCreate { pending with gameSessionId := some sessionId })
  | none =>
    if c.settings.autoCloseOnGameExit ∧ c.snapshot.gameSessionId = some sessionId ∧
        (state = .exited ∨ state = .crashed ∨ state = .terminated) then
      c.queueOperation .leave
    else c

/-- `RestartHelperAsync` after its `StopAsync`. -/
def restartStopped (c : TerracottaController) : TerracottaController :=
  if c.stateMachine ≠ .idle then c.publishFault helperDisconnected "陶瓦核心已重启，请重新进入房间。" else c

/-- The handler of `RunDiagnoseCommandAsync`. -/
def commandFailed (host : Host) (e : Exn) (c : TerracottaController) : TerracottaController :=
  if c.snapshot.state ≠ .faulted then c.fault host e else c

/-! ## What the small methods do to the fields -/

section fields

variable {c c' : TerracottaController} {next : TerracottaRoomState}

theorem transitionTo_ok (h : c.transitionTo next = .ok c') :
    c' = { c with stateMachine := next } ∧ RoomStateMachine.canTransitionTo c.stateMachine next := by
  rw [transitionTo, RoomStateMachine.transitionTo_eq] at h
  by_cases hcan : RoomStateMachine.canTransitionTo c.stateMachine next
  · rw [if_pos hcan] at h
    exact ⟨(Except.ok.inj h).symm, hcan⟩
  · rw [if_neg hcan] at h
    cases h

theorem transitionTo_of_can (h : RoomStateMachine.canTransitionTo c.stateMachine next = true) :
    c.transitionTo next = .ok { c with stateMachine := next } := by
  rw [transitionTo, RoomStateMachine.transitionTo_eq, if_pos h]

theorem transitionTo_error {e : Exn} (h : c.transitionTo next = .error e) : e ≠ .canceled := by
  rw [transitionTo] at h
  split at h
  · cases h; exact Exn.noConfusion
  · cases h

theorem publishFault_eq (c : TerracottaController) (code message : String) :
    c.publishFault code message = { c with
      stateMachine := .faulted
      snapshot := { c.snapshot with state := .faulted, errorCode := some code, errorMessage := some message } } := by
  unfold publishFault
  by_cases h : c.stateMachine = .faulted
  · rw [if_neg (not_not_intro h)]
    simp [publish, ← h]
  · rw [if_pos h]
    simp [transitionTo, publish]

def unfaulted (c : TerracottaController) : TerracottaController :=
  { c with stateMachine := if c.stateMachine = .faulted then .idle else c.stateMachine }

theorem resetFaultIfNeeded_eq (c : TerracottaController) : c.resetFaultIfNeeded = .ok c.unfaulted := by
  unfold resetFaultIfNeeded unfaulted
  split
  · rename_i h
    rw [transitionTo_of_can (by rw [h]; rfl)]
  · rfl

theorem toReconnecting_eq (c : TerracottaController) : c.toReconnecting =
    { c with stateMachine := if c.stateMachine.live then .reconnecting else c.stateMachine } := by
  unfold toReconnecting
  cases hm : c.stateMachine <;> simp [TerracottaRoomState.live, transitionTo, hm, RoomStateMachine.transitionTo,
    RoomStateMachine.allowedTransitions] <;> simp [← hm]

/-- **What a push event of the Helper does**: whatever snapshot it carries, it is read as an idle one, and whatever
network as an unhealthy one. -/
theorem onHelperPushEvent_writeEvent (sequence : Nat) (event : RoomEvent) (c : TerracottaController) :
    c.onHelperPushEvent (writeEvent sequence event) = match event with
      | .stateChanged _ => { c.stopStatusPolling with stateMachine := .idle, snapshot := .idle }
      | .networkUpdated _ =>
        if c.snapshot.state.live then
          { c with
            stateMachine := if c.stateMachine = .connected then .reconnecting else c.stateMachine
            snapshot := { c.snapshot with
              state := if c.stateMachine = .connected then .reconnecting else c.stateMachine
              network := some .blank } }
        else c
      | .peerJoined _ | .peerLeft _ | .peerUpdated _ => c.queueOperation .refresh := by
  cases event with
  | stateChanged snapshot =>
    have hread : pushSnapshot (writeEvent sequence (.stateChanged snapshot)) = some .blank :=
      RoomSnapshot.read_default snapshot
    show (match pushSnapshot (writeEvent sequence (.stateChanged snapshot)) with
      | none => c
      | some snapshot => c.applyHelperSnapshot snapshot) = _
    rw [hread]
    simp [applyHelperSnapshot, publish, TerracottaRoomSnapshot.blank]
  | networkUpdated network =>
    have hread : pushNetwork (writeEvent sequence (.networkUpdated network)) = some .blank :=
      NetworkStatus.read_default network
    simp only [onHelperPushEvent, hread, show (writeEvent sequence (.networkUpdated network)).messageType =
      "network.updated" from rfl]
    by_cases hm : c.stateMachine = .connected
    · simp [hm, TerracottaNetworkStatus.blank, publish, transitionTo, RoomStateMachine.transitionTo,
        RoomStateMachine.allowedTransitions]
    · by_cases hr : c.stateMachine = .reconnecting
      · simp [hr, TerracottaNetworkStatus.blank, publish]
      · simp [hm, hr, TerracottaNetworkStatus.blank, publish]
  | peerJoined member => rfl
  | peerLeft id => rfl
  | peerUpdated member => rfl

@[simp] theorem stopStatusPolling_stateMachine (c : TerracottaController) :
    c.stopStatusPolling.stateMachine = c.stateMachine := by unfold stopStatusPolling; split <;> rfl
@[simp] theorem stopStatusPolling_snapshot (c : TerracottaController) :
    c.stopStatusPolling.snapshot = c.snapshot := by unfold stopStatusPolling; split <;> rfl
@[simp] theorem stopStatusPolling_gate (c : TerracottaController) :
    c.stopStatusPolling.gate = c.gate := by unfold stopStatusPolling; split <;> rfl
@[simp] theorem stopStatusPolling_recovery (c : TerracottaController) :
    c.stopStatusPolling.recovery = c.recovery := by unfold stopStatusPolling; split <;> rfl
@[simp] theorem stopStatusPolling_queued (c : TerracottaController) :
    c.stopStatusPolling.queued = c.queued := by unfold stopStatusPolling; split <;> rfl
@[simp] theorem stopStatusPolling_pendingCreate (c : TerracottaController) :
    c.stopStatusPolling.pendingCreate = c.pendingCreate := by unfold stopStatusPolling; split <;> rfl
@[simp] theorem stopStatusPolling_statusPoll (c : TerracottaController) :
    c.stopStatusPolling.statusPoll = none := by
  unfold stopStatusPolling
  split
  · assumption
  · rfl

theorem interrupted_fields (willAutoRestart : Bool) (c : TerracottaController) :
    (c.interrupted willAutoRestart).stateMachine = (if c.stateMachine.live then .reconnecting else c.stateMachine) ∧
      (c.interrupted willAutoRestart).snapshot.state = .reconnecting ∧
      (c.interrupted willAutoRestart).gate = c.gate ∧ (c.interrupted willAutoRestart).recovery = c.recovery ∧
      (c.interrupted willAutoRestart).pendingCreate = c.pendingCreate ∧
      (c.interrupted willAutoRestart).waiting = c.stopStatusPolling.waiting ∧
      (c.interrupted willAutoRestart).queued = c.queued := by
  simp only [interrupted, toReconnecting_eq, publish]
  simp

theorem mem_stopStatusPolling_waiting {op : Op} (h : op ∈ c.stopStatusPolling.waiting) : op ∈ c.waiting := by
  unfold stopStatusPolling at h
  split at h
  · exact h
  · exact (List.mem_filter.1 h).1

@[simp] theorem startStatusPolling_stateMachine (c : TerracottaController) :
    c.startStatusPolling.stateMachine = c.stateMachine := by simp [startStatusPolling]
@[simp] theorem startStatusPolling_snapshot (c : TerracottaController) :
    c.startStatusPolling.snapshot = c.snapshot := by simp [startStatusPolling]
@[simp] theorem startStatusPolling_gate (c : TerracottaController) :
    c.startStatusPolling.gate = c.gate := by simp [startStatusPolling]

end fields

/-! ## What a create does first with the gate -/

def Opens (c : TerracottaController) : Prop :=
  c.stateMachine = .idle ∨ c.stateMachine = .waitingForGame ∨ c.stateMachine = .waitingForLan

/-- **How a create's first piece ends**, from the controller after `ResetFaultIfNeeded`: refused, waiting for a game or
a LAN port, stuck on an illegal transition, stopped by a port out of range, or in the gateway call. -/
inductive CreateEnters (d : TerracottaController) (request : TerracottaCreateRoomRequest) :
    TerracottaController × Outcome → Prop
  | refused (h : ¬ d.Opens) : CreateEnters d request (d, .threw (.other "A Terracotta room operation is already active."))
  | waits (h : d.Opens) (pending : TerracottaCreateRoomRequest) (state : TerracottaRoomState)
      (snapshot : TerracottaRoomSnapshot) (hstate : state = .waitingForGame ∨ state = .waitingForLan)
      (hsnapshot : snapshot.state = state) : CreateEnters d request
        ({ d with pendingCreate := some pending, stateMachine := state, snapshot }, .done)
  | stuck (h : d.Opens) (pending : TerracottaCreateRoomRequest) (e : Exn) (he : e ≠ .canceled) :
      CreateEnters d request ({ d with pendingCreate := some pending }, .threw e)
  | badPort (h : d.Opens) (message : String) :
      CreateEnters d request ({ d with pendingCreate := none, stateMachine := .creating }, .threw (.other message))
  | calls (h : d.Opens) (snapshot : TerracottaRoomSnapshot) (sessionId lanAddress : String)
      (hsnapshot : snapshot.state = .creating) : CreateEnters d request
        ({ d with pendingCreate := none, stateMachine := .creating, snapshot },
          .wait (.calling (.create request sessionId lanAddress) .starting))

theorem transitionAndPublish_enters {d : TerracottaController} (h : d.Opens)
    (request pending : TerracottaCreateRoomRequest) {state : TerracottaRoomState}
    (hstate : state = .waitingForGame ∨ state = .waitingForLan) (gameSessionId errorCode errorMessage : Option String) :
    CreateEnters d request
      (transitionAndPublish { d with pendingCreate := some pending } state gameSessionId errorCode errorMessage) := by
  unfold transitionAndPublish
  split
  · rename_i e he
    exact .stuck h pending e (transitionTo_error he)
  · rename_i d' hd
    obtain ⟨rfl, -⟩ := transitionTo_ok hd
    exact .waits h pending state _ hstate rfl

theorem createEnter_enters (host : Host) (scene : Scene) (request : TerracottaCreateRoomRequest)
    (c : TerracottaController) : CreateEnters c.unfaulted request (c.createEnter host scene request) := by
  unfold createEnter
  rw [resetFaultIfNeeded_eq]
  generalize c.unfaulted = d
  simp only
  split
  · rename_i hd
    exact .refused (fun h => by unfold Opens at h; tauto)
  rename_i hd
  have hopen : d.Opens := by unfold Opens; tauto
  split
  · exact transitionAndPublish_enters hopen request request (.inl rfl) _ _ _
  split
  · exact transitionAndPublish_enters hopen request _ (.inr rfl) _ _ _
  · have hcan : RoomStateMachine.canTransitionTo d.stateMachine .creating = true := by
      obtain h | h | h := hopen <;> rw [h] <;> rfl
    rw [transitionTo_of_can (c := { d with pendingCreate := none }) hcan]
    simp only
    split
    · exact .badPort hopen _
    · exact .calls hopen _ _ _ rfl

/-- **How a join's first piece ends**: refused, or in the gateway call. -/
inductive JoinEnters (d : TerracottaController) (request : TerracottaJoinRoomRequest) (code : String) :
    TerracottaController × Outcome → Prop
  | refused (h : d.stateMachine ≠ .idle) :
      JoinEnters d request code (d, .threw (.other "A Terracotta room operation is already active."))
  | calls (h : d.stateMachine = .idle) (snapshot : TerracottaRoomSnapshot) (hsnapshot : snapshot.state = .joining) :
      JoinEnters d request code
        ({ d with stateMachine := .joining, snapshot }, .wait (.calling (.join request code) .starting))

theorem joinEnter_enters (request : TerracottaJoinRoomRequest) (code : String) (c : TerracottaController) :
    JoinEnters c.unfaulted request code (c.joinEnter request code) := by
  unfold joinEnter
  rw [resetFaultIfNeeded_eq]
  generalize c.unfaulted = d
  simp only
  split
  · rename_i h
    exact .refused h
  · rename_i h
    have hidle : d.stateMachine = .idle := not_not.1 h
    rw [transitionTo_of_can (by rw [hidle]; rfl)]
    exact .calls hidle _ rfl

@[simp] theorem forgotten_stateMachine (c : TerracottaController) : c.forgotten.stateMachine = c.stateMachine :=
  stopStatusPolling_stateMachine c

@[simp] theorem forgotten_snapshot (c : TerracottaController) : c.forgotten.snapshot = c.snapshot :=
  stopStatusPolling_snapshot c

@[simp] theorem forgotten_statusPoll (c : TerracottaController) : c.forgotten.statusPoll = none :=
  stopStatusPolling_statusPoll c

/-- **How a leave's first piece ends**: at once in `Idle`, in `Idle` and the stop of the Helper, in the gateway call, or
on the missing transition from `Diagnosing`. -/
inductive LeaveEnters (d : TerracottaController) : TerracottaController × Outcome → Prop
  | idle (h : d.stateMachine = .idle) : LeaveEnters d (d, .done)
  | stops (h : d.stateMachine = .waitingForGame ∨ d.stateMachine = .waitingForLan ∨ d.stateMachine = .faulted) :
      LeaveEnters d ({ d with stateMachine := .idle, snapshot := .idle }, .wait (.stopping .leaveWaiting))
  | calls (h : d.stateMachine.inRoom = true) : LeaveEnters d
      ({ d with stateMachine := .leaving, snapshot := { d.snapshot with state := .leaving } },
        .wait (.calling .leave .starting))
  | stuck (h : d.stateMachine = .diagnosing) (e : Exn) (he : e ≠ .canceled) : LeaveEnters d (d, .threw e)

theorem leaveEnter_enters (c : TerracottaController) : LeaveEnters c.forgotten c.leaveEnter := by
  unfold leaveEnter
  simp only
  generalize c.forgotten = d
  by_cases hidle : d.stateMachine = .idle
  · rw [if_pos hidle]
    exact .idle hidle
  rw [if_neg hidle]
  split
  · rename_i h
    rw [transitionTo_of_can (by obtain h | h | h := h <;> rw [h] <;> rfl)]
    exact .stops h
  · rename_i h
    cases hd : d.transitionTo .leaving with
    | ok d' =>
      obtain ⟨rfl, -⟩ := transitionTo_ok hd
      refine .calls ?_
      revert hidle h
      cases d.stateMachine <;> decide
    | error e =>
      refine .stuck ?_ e (transitionTo_error hd)
      by_contra hdiag
      have hcan : RoomStateMachine.canTransitionTo d.stateMachine .leaving = true := by
        revert hidle h hdiag
        cases d.stateMachine <;> decide
      rw [transitionTo_of_can hcan] at hd
      cases hd

end TerracottaController

end Terracotta
