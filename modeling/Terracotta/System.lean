import Terracotta.Controller
import Terracotta.ProcessManager
import Terracotta.Run
/-!
# The plugin and its Helper as one system

`Sys` is the controller, the process manager, the gateway and the Helper the gateway is connected to.  A `Label` says
which of them moves and what the environment answers: a call, a task, a callback, a clock reading, the network
backend.  Awaits may also end in an exception at any time (`throws`), cancellation included.
-/
namespace Terracotta

/-! ## Operations under the gate -/

namespace TerracottaController

/-- The `catch` and `finally` an exception of a gated method meets. -/
inductive Handler
  | faults
  | refresh (poll : Option Nat)
  | diagnose (command : Bool)
  | recover
deriving DecidableEq

/-- The handler's work: `OperationCanceledException` passes every one of them. -/
def caught (host : Host) (e : Exn) (c : TerracottaController) : Handler → TerracottaController
  | .faults => if e = .canceled then c else c.fault host e
  | .refresh poll => if e = .canceled then c else c.resumePoll poll
  | .diagnose command =>
    if e = .canceled then c
    else
      let c := c.fault host e
      { c with failedCommands := if command then c.failedCommands ++ [e] else c.failedCommands }
  | .recover => if e = .canceled then c else { c with recovery := none }.fault host e

def resume (host : Host) (handler : Handler) : TerracottaController × Outcome → TerracottaController
  | (c, .wait await) => { c with gate := some await }
  | (c, .done) =>
    let c := match handler with
      | .refresh poll => c.resumePoll poll
      | _ => c
    { c with gate := none }
  | (c, .threw e) => { c.caught host e handler with gate := none }

def enter (host : Host) (scene : Scene) (c : TerracottaController) : Op → TerracottaController × Outcome
  | .create request => c.createEnter host scene request
  | .join request code => c.joinEnter request code
  | .leave => c.leaveEnter
  | .refresh poll => (c, .wait (.calling (.refresh poll) .starting))
  | .diagnose command => c.diagnoseEnter command
  | .recover intent => (c, .wait (.stopping (.recover intent)))

def Handler.ofOp : Op → Handler
  | .create _ | .join _ _ | .leave => .faults
  | .refresh poll => .refresh poll
  | .diagnose command => .diagnose command
  | .recover _ => .recover

def Handler.ofAwait : Await → Handler
  | .calling (.refresh poll) _ => .refresh poll
  | .calling (.diagnose _ command) _ => .diagnose command
  | .calling (.recover _) _ | .stopping (.recover _) => .recover
  | _ => .faults

def answered (host : Host) (c : TerracottaController) (call : Call) (response : Envelope) :
    TerracottaController × Outcome :=
  match call with
  | .create request sessionId lanAddress => match readPayload host.jsonMessage (responseSnapshot response) with
    | .error e => (c, .threw e)
    | .ok connected => c.createConnected request sessionId lanAddress connected
  | .join request code => match readPayload host.jsonMessage (responseSnapshot response) with
    | .error e => (c, .threw e)
    | .ok connected => c.joinConnected host request code connected
  | .leave => (c, .wait (.stopping .leaveRoom))
  | .refresh _ => match readPayload host.jsonMessage (responseSnapshot response) with
    | .error e => (c, .threw e)
    | .ok helper => c.refreshAnswered helper
  | .diagnose previous _ => match readPayload host.jsonMessage (responseNetwork response) with
    | .error e => (c, .threw e)
    | .ok network => c.diagnoseAnswered previous network
  | .recover _ => match readPayload host.jsonMessage (responseSnapshot response) with
    | .error e => (c, .threw e)
    | .ok connected => c.recoverConnected connected

def stopped (c : TerracottaController) : Stopping → TerracottaController × Outcome
  | .leaveWaiting => (c, .done)
  | .leaveRoom => c.leaveStopped
  | .recover intent => c.recoverStopped intent

/-- `RefreshStatusAsync` up to the gate. -/
def refresh (c : TerracottaController) (poll : Option Nat) : TerracottaController :=
  if c.snapshot.state.live then { c with waiting := c.waiting ++ [.refresh poll] } else c.resumePoll poll

@[simp] theorem refresh_stateMachine (c : TerracottaController) (poll : Option Nat) :
    (c.refresh poll).stateMachine = c.stateMachine := by unfold refresh; split <;> rfl
@[simp] theorem refresh_snapshot (c : TerracottaController) (poll : Option Nat) :
    (c.refresh poll).snapshot = c.snapshot := by unfold refresh; split <;> rfl
@[simp] theorem refresh_gate (c : TerracottaController) (poll : Option Nat) :
    (c.refresh poll).gate = c.gate := by unfold refresh; split <;> rfl

/-- `JoinAsync` up to the gate. -/
def join (c : TerracottaController) (request : TerracottaJoinRoomRequest) : TerracottaController :=
  match RoomCode.tryParse request.roomCode with
  | none => c.publishFault ErrorCodeCatalog.invalidRoomCode "房间码格式应为 XXXX-XXXX-XXXX。"
  | some code => { c with waiting := c.waiting ++ [.join request code] }

/-- The part of a diagnosis before the gate; the command looks at the snapshot first. -/
def diagnose (c : TerracottaController) (command : Bool) : TerracottaController :=
  if command && !c.snapshot.state.live then c else { c with waiting := c.waiting ++ [.diagnose command] }

def begin (c : TerracottaController) : Task → TerracottaController
  | .loadSettings => c
  | .resumeCreate request => { c with waiting := c.waiting ++ [.create request] }
  | .refresh => c.refresh none
  | .leave => { c with waiting := c.waiting ++ [.leave] }
  | .recover => match c.recovery with
    | none => c
    | some intent => { c with waiting := c.waiting ++ [.recover intent] }

def pollTick (c : TerracottaController) : Option TerracottaController :=
  match c.statusPoll with
  | some ⟨number, true⟩ =>
    let c := { c with statusPoll := some ⟨number, false⟩ }
    if c.snapshot.state = .connected ∨ c.snapshot.state = .reconnecting then some (c.refresh (some number))
    else some c
  | _ => none

end TerracottaController

def Op.opens : Op → Bool
  | .create _ | .join _ _ => true
  | _ => false

def Call.request : Call → HelperRequest
  | .create request sessionId lanAddress => .create
      { gameSessionId := sessionId, lanAddress, preferDirect := request.preferDirectConnection
        allowRelay := request.allowRelay }
  | .join request code => .join { roomCode := code, gameSessionId := request.gameSessionId }
  | .leave => .leave
  | .refresh _ => .status
  | .diagnose _ _ => .diagnose
  | .recover request => request

/-! ## The system -/

/-- What an observer of the plugin's other end sees, oldest first: a Helper process is launched,
`HelperRoomGateway.CreateAsync` is called by `CreateAsync`, a room request is sent, a room request is answered; the last
two with the state of the Helper's room at that time. -/
inductive Effect
  | launched
  | createCalled
  | sent (request : HelperRequest) (room : RoomState)
  | answered (request : HelperRequest) (room : RoomState) (answers : BackendAnswers) (response : Envelope)

structure Sys where
  controller : TerracottaController
  manager : HelperProcessManager
  helper : Helper
  log : List Effect

inductive Label
  -- calls of the host and of the user interface
  | create (request : TerracottaCreateRoomRequest)
  | join (request : TerracottaJoinRoomRequest)
  | leave
  | refresh
  | diagnose (command : Bool)
  | restartHelper
  -- queued tasks, the gate
  | begin (i : Nat)
  | settingsLoaded (i : Nat) (settings : TerracottaSettings)
  | enter (i : Nat) (scene : Scene)
  | cancelWait (i : Nat)
  -- the holder of the gate goes on
  | clientReady
  | startFails (launched : Bool) (outcome : StopOutcome) (e : Exn)
  | send (id : String)
  | deliver
  | stopped
  | stopFails (outcome : StopOutcome) (e : Exn)
  | written
  | throws (e : Exn)
  -- the Helper
  | handle (answers : BackendAnswers)
  | helperPoll (refresh : Except RoomError BackendRefresh)
  | processExit (generation : Nat)
  | processEnded (i now : Nat)
  -- callbacks and what runs beside the gate
  | report (i : Nat)
  | push (sequence : Nat) (event : RoomEvent)
  | gameOutput (sessionId text : String)
  | launchEvent (sessionId : String) (state : PluginGameSessionState)
  | pollTick
  | restartStopped (outcome : StopOutcome)
  | commandFailed (i : Nat)

namespace Sys

def init : Sys := ⟨.init, .init, .launched, []⟩

def resume (host : Host) (s : Sys) (handler : TerracottaController.Handler)
    (piece : TerracottaController × Outcome) : Sys :=
  { s with controller := TerracottaController.resume host handler piece }

/-- `StopAsync` of the gateway, up to the manager's part. -/
def stop (s : Sys) (outcome : StopOutcome) : Sys :=
  { s with manager := s.manager.stopCore outcome }

/-- `EnsureStartedAsync`: the client there is, or a new one of a Helper that was just launched. -/
def ensureStarted (s : Sys) : Sys × Nat :=
  match s.manager.client with
  | some client => (s, client)
  | none =>
    ({ s with manager := s.manager.ensureStarted, helper := .launched, log := s.log ++ [.launched] },
      s.manager.generation + 1)

theorem ensureStarted_client (s : Sys) : s.ensureStarted.1.manager.client = some s.ensureStarted.2 := by
  unfold ensureStarted
  split
  · assumption
  · rename_i h
    simp [HelperProcessManager.ensureStarted, h]

/-- Whether a piece ends in a call of `HelperRoomGateway.CreateAsync`. -/
def createCalls : Outcome → List Effect
  | .wait (.calling (.create _ _ _) .starting) => [.createCalled]
  | _ => []

def step (host : Host) (s : Sys) : Label → Option Sys
  | .create request =>
    some { s with controller := { s.controller with waiting := s.controller.waiting ++ [.create request] } }
  | .join request => some { s with controller := s.controller.join request }
  | .leave => some { s with controller := { s.controller with waiting := s.controller.waiting ++ [.leave] } }
  | .refresh => some { s with controller := s.controller.refresh none }
  | .diagnose command => some { s with controller := s.controller.diagnose command }
  | .restartHelper => some { s with controller := { s.controller with restarts := s.controller.restarts + 1 } }
  | .begin i => match s.controller.queued[i]? with
    | none | some .loadSettings => none
    | some task =>
      some { s with controller := { s.controller with queued := s.controller.queued.eraseIdx i }.begin task }
  | .settingsLoaded i settings => match s.controller.queued[i]? with
    | some .loadSettings =>
      some { s with controller := { s.controller with queued := s.controller.queued.eraseIdx i, settings } }
    | _ => none
  | .enter i scene => match s.controller.gate, s.controller.waiting[i]? with
    | none, some op =>
      let piece := { s.controller with waiting := s.controller.waiting.eraseIdx i }.enter host scene op
      some { s.resume host (.ofOp op) piece with log := s.log ++ createCalls piece.2 }
    | _, _ => none
  | .cancelWait i => match s.controller.waiting[i]? with
    | none => none
    | some _ => some { s with controller := { s.controller with waiting := s.controller.waiting.eraseIdx i } }
  | .clientReady => match s.controller.gate with
    | some (.calling call .starting) =>
      let (s', client) := s.ensureStarted
      some { s' with controller := { s.controller with gate := some (.calling call (.initializing client)) } }
    | _ => none
  | .startFails launched outcome e => match s.controller.gate, s.manager.client with
    | some (.calling call .starting), none =>
      let s' : Sys := { s with
        manager := s.manager.startFailed launched outcome
        log := if launched then s.log ++ [.launched] else s.log }
      some (s'.resume host (.ofAwait (.calling call .starting)) (s.controller, .threw e))
    | _, _ => none
  | .send id => match s.controller.gate with
    | some (.calling call (.initializing client)) =>
      -- the identity is there; a disposed client sends nothing, and a generated id is new
      if s.manager.client = some client ∧ s.helper.fresh id then
        some { s with
          helper := s.helper.receive id call.request
          controller := { s.controller with gate := some (.calling call (.sent client id)) }
          log := s.log ++ [.sent call.request s.helper.room.state.state] }
      else none
    | _ => none
  | .deliver => match s.controller.gate with
    | some (.calling call (.sent client id)) =>
      match s.helper.responses.find? (fun response => response.id = id) with
      | none => none
      | some response =>
        let piece := match checkResponse host.jsonMessage call.request.responseType response with
          | .error e => (s.controller, .threw e)
          | .ok response => s.controller.answered host call response
        some (s.resume host (.ofAwait (.calling call (.sent client id))) piece)
    | _ => none
  | .stopped => match s.controller.gate with
    | some (.stopping stopping) =>
      some ((s.stop .completed).resume host (.ofAwait (.stopping stopping)) (s.controller.stopped stopping))
    | _ => none
  | .stopFails outcome e => match s.controller.gate with
    | some (.stopping stopping) =>
      some ((s.stop outcome).resume host (.ofAwait (.stopping stopping)) (s.controller, .threw e))
    | _ => none
  | .written => match s.controller.gate with
    | some (.saving copies) => some (s.resume host .faults (s.controller.copy host copies))
    | some .copying => some (s.resume host .faults (s.controller, .done))
    | _ => none
  | .throws e => match s.controller.gate with
    | some await => some (s.resume host (.ofAwait await) (s.controller, .threw e))
    | none => none
  | .handle answers => match s.helper.inbox, s.helper.handle answers with
    | (id, request) :: _, some helper =>
      some { s with
        helper
        log := s.log ++
          [.answered request s.helper.room.state.state answers (s.helper.room.handle id request answers).2] }
    | _, _ => none
  | .helperPoll refresh => if s.helper.alive then some { s with helper := s.helper.poll refresh } else none
  | .processExit generation =>
    if generation ∈ s.manager.processes then
      some { s with
        manager := s.manager.processExit generation
        helper := if generation = s.manager.generation then { s.helper with alive := false } else s.helper }
    else none
  | .processEnded i now => match s.manager.ended[i]? with
    | none => none
    | some generation =>
      let m := s.manager.onProcessEnded generation now
      some { s with manager := { m with ended := m.ended.eraseIdx i } }
  | .report i => match s.manager.reports[i]? with
    | none => none
    | some willAutoRestart =>
      some { s with
        manager := { s.manager with reports := s.manager.reports.eraseIdx i }
        controller := s.controller.onHelperProcessExited willAutoRestart }
  | .push sequence event => some { s with controller := s.controller.onHelperPushEvent (writeEvent sequence event) }
  | .gameOutput sessionId text => some { s with controller := s.controller.onGameOutput host sessionId text }
  | .launchEvent sessionId state => some { s with controller := s.controller.onLaunchEvent sessionId state }
  | .pollTick => s.controller.pollTick.map (fun controller => { s with controller })
  | .restartStopped outcome =>
    if 0 < s.controller.restarts then
      let s' := s.stop outcome
      let c := { s.controller with restarts := s.controller.restarts - 1 }
      some { s' with controller := if outcome = .completed then c.restartStopped else c }
    else none
  | .commandFailed i => match s.controller.failedCommands[i]? with
    | none => none
    | some e =>
      some { s with
        controller :=
          { s.controller with failedCommands := s.controller.failedCommands.eraseIdx i }.commandFailed host e }

theorem step_enter (host : Host) {s : Sys} {i : Nat} (scene : Scene) {op : Op} (hgate : s.controller.gate = none)
    (hop : s.controller.waiting[i]? = some op) : ∃ t, step host s (.enter i scene) = some t ∧
      t.controller = TerracottaController.resume host (.ofOp op)
        ({ s.controller with waiting := s.controller.waiting.eraseIdx i }.enter host scene op) := by
  simp only [step]
  split
  · rename_i op' hg ho
    cases hop.symm.trans ho
    exact ⟨_, rfl, rfl⟩
  · rename_i hno
    exact absurd hop (hno op hgate)

end Sys

/-! ## A host with one game

What the runs below start from: one running game without a LAN address, a clipboard service that is missing, and
`TryResolvePort` on the two lines Minecraft logs when a world is opened to LAN. -/

def sampleHost : Host where
  redact := id
  tryResolvePort text :=
    if text = some "Started serving on 25565" ∨ text = some "Local game hosted on port 25565" then some 25565 else none
  clipboard := false
  jsonMessage := "The JSON value could not be converted."

def sampleScene : Scene := ⟨[⟨"session-1", some "instance-1", .running, 1, none⟩], none⟩

/-- A backend that opens the room, refreshes nothing, measures a healthy network and leaves. -/
def willingBackend : BackendAnswers :=
  ⟨.ok ⟨"AB12-CD34-EF56", none, healthyNetwork, []⟩, .ok {}, .ok healthyNetwork, .ok ()⟩

def createRoom : List Label :=
  [.create { lanPort := some 25565 }, .enter 0 sampleScene, .clientReady, .send "a", .handle willingBackend, .deliver,
    .written]

end Terracotta
