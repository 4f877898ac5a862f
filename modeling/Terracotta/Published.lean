import Terracotta.Settling
/-!
# The state the plugin shows and the state it is in

The lifecycle is kept twice: in the state machine and in the `State` of the published snapshot.  A piece that moves the
machine publishes before it ends, so between two pieces the two should agree.  Two pieces publish a state without the
transition to it: a refresh, which shows the Helper's state, and the exit of a Helper, which shows `Reconnecting`
whatever the machine is in.
-/
namespace Terracotta

namespace TerracottaController

/-- The published snapshot shows the machine's state. -/
def Agrees (c : TerracottaController) : Prop := c.snapshot.state = c.stateMachine

theorem publishFault_agrees (c : TerracottaController) (code message : String) :
    (c.publishFault code message).Agrees := by
  rw [publishFault_eq]
  rfl

theorem interrupted_agrees (willAutoRestart : Bool) (c : TerracottaController) :
    (c.interrupted willAutoRestart).Agrees ↔ c.stateMachine.live = true := by
  obtain ⟨hm, hs, -⟩ := interrupted_fields willAutoRestart c
  unfold Agrees
  rw [hm, hs]
  by_cases hl : c.stateMachine.live = true
  · simp [hl]
  · rw [if_neg hl]
    refine ⟨fun h => ?_, fun h => absurd h hl⟩
    rw [← h] at hl
    exact absurd rfl hl

/-! ## Callbacks -/

/-- The exit of a Helper leaves the room shown as reconnecting only with a recovery queued. -/
theorem onHelperProcessExited_agrees (willAutoRestart : Bool) {c : TerracottaController} (hc : c.Agrees) :
    (c.onHelperProcessExited willAutoRestart).Agrees ↔
      (willAutoRestart = true → c.recovery.isSome = true → c.snapshot.state ≠ .idle → c.snapshot.state ≠ .leaving →
        c.stateMachine.live = true) := by
  obtain ⟨-, -, -, hr, -⟩ := interrupted_fields willAutoRestart c
  unfold onHelperProcessExited
  split
  · rename_i h
    exact ⟨fun _ _ _ h1 h2 => absurd h (not_or.2 ⟨h1, h2⟩), fun _ => hc⟩
  rename_i h
  obtain ⟨h1, h2⟩ := not_or.1 h
  simp only [hr]
  by_cases hrestart : (willAutoRestart && c.recovery.isSome) = true
  · rw [if_pos hrestart]
    rw [Bool.and_eq_true] at hrestart
    have hsame : ((c.interrupted willAutoRestart).queueOperation .recover).Agrees ↔
        (c.interrupted willAutoRestart).Agrees := Iff.rfl
    rw [hsame, interrupted_agrees]
    exact ⟨fun hl _ _ _ _ => hl, fun hl => hl hrestart.1 hrestart.2 h1 h2⟩
  · rw [if_neg hrestart]
    rw [Bool.and_eq_true] at hrestart
    exact ⟨fun _ ha hb => absurd ⟨ha, hb⟩ hrestart, fun _ => publishFault_agrees _ _ _⟩

theorem push_agrees (sequence : Nat) (event : RoomEvent) {c : TerracottaController} (hc : c.Agrees) :
    (c.onHelperPushEvent (writeEvent sequence event)).Agrees := by
  rw [onHelperPushEvent_writeEvent]
  cases event with
  | stateChanged snapshot => rfl
  | networkUpdated network =>
    simp only
    split
    · rfl
    · exact hc
  | peerJoined member => exact hc
  | peerLeft id => exact hc
  | peerUpdated member => exact hc

theorem join_agrees (request : TerracottaJoinRoomRequest) {c : TerracottaController} (hc : c.Agrees) :
    (c.join request).Agrees := by
  unfold join
  split
  · exact publishFault_agrees _ _ _
  · exact hc

theorem refresh_agrees (poll : Option Nat) {c : TerracottaController} (hc : c.Agrees) : (c.refresh poll).Agrees := by
  unfold Agrees
  rw [refresh_snapshot, refresh_stateMachine]
  exact hc

theorem begin_agrees (task : Task) {c : TerracottaController} (hc : c.Agrees) : (c.begin task).Agrees := by
  cases task with
  | loadSettings => exact hc
  | resumeCreate request => exact hc
  | refresh => exact refresh_agrees none hc
  | leave => exact hc
  | recover =>
    simp only [begin]
    split
    · exact hc
    · exact hc

theorem pollTick_agrees {c c' : TerracottaController} (hc : c.Agrees) (h : c.pollTick = some c') : c'.Agrees := by
  unfold pollTick at h
  split at h
  · simp only at h
    split at h
    · cases h
      exact refresh_agrees _ hc
    · cases h
      exact hc
  · cases h

theorem onGameOutput_agrees (host : Host) (sessionId text : String) {c : TerracottaController} (hc : c.Agrees) :
    (c.onGameOutput host sessionId text).Agrees := by
  unfold onGameOutput
  split
  · exact hc
  split
  · split
    · exact hc
    · exact hc
  · exact hc

theorem onLaunchEvent_agrees (sessionId : String) (state : PluginGameSessionState) {c : TerracottaController}
    (hc : c.Agrees) : (c.onLaunchEvent sessionId state).Agrees := by
  unfold onLaunchEvent
  split
  · exact hc
  split
  · exact hc
  · exact hc

/-! ## Pieces under the gate -/

/-- What a piece has to end with for the two copies to agree after its handler: every handler but the one of a refresh
publishes the fault it moves the machine to. -/
def Mends (handler : Handler) : TerracottaController × Outcome → Prop
  | (c, .threw e) => e = .canceled ∨ (∃ poll, handler = .refresh poll) → c.Agrees
  | (c, .wait _) => c.Agrees
  | (c, .done) => c.Agrees

theorem resume_mends (host : Host) {handler : Handler} {piece : TerracottaController × Outcome}
    (h : Mends handler piece) : (resume host handler piece).Agrees := by
  obtain ⟨c, await | _ | e⟩ := piece
  · exact h
  · cases handler <;> exact h
  · show (c.caught host e handler).Agrees
    by_cases he : e = .canceled
    · have hc := h (.inl he)
      cases handler <;> simpa only [caught, if_pos he] using hc
    · cases handler with
      | faults => rw [caught, if_neg he]; exact publishFault_agrees c _ _
      | refresh poll => rw [caught, if_neg he]; exact h (.inr ⟨poll, rfl⟩)
      | diagnose command => rw [caught, if_neg he]; exact publishFault_agrees c _ _
      | recover => rw [caught, if_neg he]; exact publishFault_agrees { c with recovery := none } _ _

theorem mends_threw (c : TerracottaController) {handler : Handler} {e : Exn} (he : e ≠ .canceled)
    (hh : ∀ poll, handler ≠ .refresh poll) : Mends handler (c, .threw e) := by
  rintro (h | ⟨poll, h⟩)
  · exact absurd h he
  · exact absurd h (hh poll)

theorem mends_of_agrees {handler : Handler} {piece : TerracottaController × Outcome} (h : piece.1.Agrees) :
    Mends handler piece := by
  obtain ⟨c, await | _ | e⟩ := piece
  · exact h
  · exact h
  · exact fun _ => h

theorem createEnter_mends (host : Host) (scene : Scene) (request : TerracottaCreateRoomRequest)
    (c : TerracottaController) : Mends .faults (c.createEnter host scene request) := by
  have h := createEnter_enters host scene request c
  generalize c.createEnter host scene request = piece at h
  cases h with
  | refused h => exact mends_threw _ (by simp) not_refresh_faults
  | waits h pending state snapshot hstate hsnapshot => exact hsnapshot
  | stuck h pending e he => exact mends_threw _ he not_refresh_faults
  | badPort h message => exact mends_threw _ (by simp) not_refresh_faults
  | calls h snapshot sessionId lanAddress hsnapshot => exact hsnapshot

theorem joinEnter_mends (request : TerracottaJoinRoomRequest) (code : String) (c : TerracottaController) :
    Mends .faults (c.joinEnter request code) := by
  have h := joinEnter_enters request code c
  generalize c.joinEnter request code = piece at h
  cases h with
  | refused h => exact mends_threw _ (by simp) not_refresh_faults
  | calls h snapshot hsnapshot => exact hsnapshot

theorem leaveEnter_mends {c : TerracottaController} (hc : c.Agrees) : Mends .faults c.leaveEnter := by
  have hforgotten : c.forgotten.Agrees := by
    unfold Agrees
    rw [forgotten_snapshot, forgotten_stateMachine]
    exact hc
  have h := leaveEnter_enters c
  generalize c.leaveEnter = piece at h
  cases h with
  | idle h => exact hforgotten
  | stops h => rfl
  | calls h => rfl
  | stuck h e he => exact mends_threw _ he not_refresh_faults

theorem diagnoseEnter_mends (command : Bool) {c : TerracottaController} (hc : c.Agrees) :
    Mends (.diagnose command) (c.diagnoseEnter command) := by
  unfold diagnoseEnter
  split
  · exact mends_of_agrees hc
  simp only
  split
  · split
    · exact mends_of_agrees hc
    · rename_i d hd
      obtain ⟨rfl, -⟩ := transitionTo_ok hd
      rfl
  · exact mends_of_agrees hc

theorem enter_mends (host : Host) (scene : Scene) {c : TerracottaController} (hc : c.Agrees) :
    ∀ op, Mends (.ofOp op) (c.enter host scene op)
  | .create request => createEnter_mends host scene request c
  | .join request code => joinEnter_mends request code c
  | .leave => leaveEnter_mends hc
  | .refresh _ => mends_of_agrees hc
  | .diagnose command => diagnoseEnter_mends command hc
  | .recover _ => mends_of_agrees hc

/-- The state a refresh shows is the machine's when it is the one the Helper reports, or a diagnosis runs. -/
theorem refreshAnswered_agrees (helper : TerracottaRoomSnapshot) {c : TerracottaController} (hc : c.Agrees) :
    (c.refreshAnswered helper).1.Agrees ↔
      (helper.state = .connected ∨ helper.state = .reconnecting →
        c.stateMachine = .diagnosing ∨ c.stateMachine = helper.state) := by
  unfold refreshAnswered
  by_cases h : helper.state = .connected ∨ helper.state = .reconnecting
  · rw [if_pos h]
    show (if c.stateMachine = .diagnosing then TerracottaRoomState.diagnosing else helper.state) = c.stateMachine ↔ _
    by_cases hd : c.stateMachine = .diagnosing
    · rw [if_pos hd]
      exact ⟨fun _ _ => .inl hd, fun _ => hd.symm⟩
    · rw [if_neg hd]
      exact ⟨fun he _ => .inr he.symm, fun he => (Or.resolve_left (he h) hd).symm⟩
  · rw [if_neg h]
    refine ⟨fun _ ha => absurd ha h, fun _ => ?_⟩
    split
    · rename_i hf
      simp only
      split
      · show c.stopStatusPolling.Agrees
        unfold Agrees
        rw [stopStatusPolling_snapshot, stopStatusPolling_stateMachine]
        exact hc
      · rename_i d hd
        obtain ⟨rfl, -⟩ := transitionTo_ok hd
        exact hf
    · exact hc

theorem diagnoseAnswered_mends (previous : TerracottaRoomState) (network : TerracottaNetworkStatus) {handler : Handler}
    {c : TerracottaController} (hc : c.Agrees) : Mends handler (c.diagnoseAnswered previous network) := by
  unfold diagnoseAnswered
  split
  · exact mends_of_agrees hc
  · rfl

theorem recoverConnected_mends (connected : TerracottaRoomSnapshot) {handler : Handler} {c : TerracottaController}
    (hc : c.Agrees) : Mends handler (c.recoverConnected connected) := by
  unfold recoverConnected
  split
  · exact mends_of_agrees hc
  rename_i d hd
  have hm : d.stateMachine = .connected := by
    split at hd
    · obtain ⟨rfl, -⟩ := transitionTo_ok hd
      rfl
    · rename_i hno
      cases hd
      exact not_not.1 hno
  show TerracottaController.Agrees _
  unfold Agrees
  rw [startStatusPolling_snapshot, startStatusPolling_stateMachine]
  exact hm.symm

/-- **What an operation other than a refresh does with the answer of its gateway call.** -/
theorem answered_mends (host : Host) {c : TerracottaController} (hc : c.Agrees) (phase : CallPhase)
    (response : Envelope) : ∀ {call : Call}, (∀ poll, call ≠ .refresh poll) →
      Mends (.ofAwait (.calling call phase)) (c.answered host call response)
  | .create request sessionId lanAddress, _ => by
    simp only [answered]
    split
    · exact mends_of_agrees hc
    unfold createConnected
    split
    · exact mends_of_agrees hc
    · rename_i d hd
      obtain ⟨rfl, -⟩ := transitionTo_ok hd
      exact mends_of_agrees (by simp [Agrees, selectSession, publish])
  | .join request code, _ => by
    simp only [answered]
    split
    · exact mends_of_agrees hc
    unfold joinConnected
    split
    · exact mends_of_agrees hc
    · rename_i d hd
      obtain ⟨rfl, -⟩ := transitionTo_ok hd
      simp only
      split
      · exact mends_of_agrees (by simp [Agrees, selectSession, publish])
      · exact mends_of_agrees (by simp [Agrees, copy, publish])
  | .leave, _ => mends_of_agrees hc
  | .refresh poll, hno => absurd rfl (hno poll)
  | .diagnose previous command, _ => by
    simp only [answered]
    split
    · exact mends_of_agrees hc
    · exact diagnoseAnswered_mends previous _ hc
  | .recover request, _ => by
    simp only [answered]
    split
    · exact mends_of_agrees hc
    · exact recoverConnected_mends _ hc

theorem recoverStopped_mends (intent : RecoveryIntent) {handler : Handler} {c : TerracottaController} (hc : c.Agrees) :
    Mends handler (c.recoverStopped intent) := by
  refine mends_of_agrees ?_
  unfold recoverStopped
  split
  · split
    · split <;> exact hc
    · exact hc
  · split
    · split <;> exact hc
    · exact hc

theorem stopped_mends {c : TerracottaController} (hc : c.Agrees) :
    ∀ stop, Mends (.ofAwait (.stopping stop)) (c.stopped stop)
  | .leaveWaiting => hc
  | .leaveRoom => by
    show Mends .faults c.leaveStopped
    unfold leaveStopped
    split
    · exact mends_of_agrees hc
    · rename_i d hd
      obtain ⟨rfl, -⟩ := transitionTo_ok hd
      rfl
  | .recover intent => recoverStopped_mends intent hc

theorem resume_refresh_agrees (host : Host) (poll : Option Nat) (piece : TerracottaController × Outcome) :
    (resume host (.refresh poll) piece).Agrees ↔ piece.1.Agrees := by
  obtain ⟨c, await | _ | e⟩ := piece
  · exact Iff.rfl
  · exact Iff.rfl
  · show (c.caught host e (.refresh poll)).Agrees ↔ _
    by_cases he : e = .canceled
    · rw [caught, if_pos he]
    · rw [caught, if_neg he]
      exact Iff.rfl

end TerracottaController

namespace Sys

open TerracottaController

/-- The snapshot the gateway call of the gate's holder returns with, once its response is there. -/
def returns (host : Host) (s : Sys) : Option (Call × TerracottaRoomSnapshot) :=
  match s.controller.gate with
  | some (.calling call (.sent _ id)) => do
    let response ← s.helper.responses.find? (fun response => response.id = id)
    let envelope ← (checkResponse host.jsonMessage call.request.responseType response).toOption
    let snapshot ← responseSnapshot envelope
    return (call, snapshot)
  | _ => none

theorem returns_eq {host : Host} {s : Sys} {call : Call} {client : Nat} {id : String} {response : Envelope}
    (hgate : s.controller.gate = some (.calling call (.sent client id)))
    (hfind : s.helper.responses.find? (fun response => response.id = id) = some response) :
    s.returns host = match checkResponse host.jsonMessage call.request.responseType response with
      | .error _ => none
      | .ok envelope => (responseSnapshot envelope).map (fun snapshot => (call, snapshot)) := by
  unfold returns
  rw [hgate]
  simp only [hfind, Option.bind_eq_bind, Option.bind_some]
  cases checkResponse host.jsonMessage call.request.responseType response with
  | error e => rfl
  | ok envelope =>
    simp only [Except.toOption, Option.bind_some]
    cases responseSnapshot envelope <;> rfl

/-- The condition: a refresh is answered with the state the machine is in, or during a diagnosis, and no recovery is
queued for a room that is not open. -/
def KeepsCopies (host : Host) (s : Sys) : Label → Prop
  | .deliver => ∀ poll helper, s.returns host = some (.refresh poll, helper) →
      helper.state = .connected ∨ helper.state = .reconnecting →
        s.controller.stateMachine = .diagnosing ∨ s.controller.stateMachine = helper.state
  | .report i => s.manager.reports[i]? = some true → s.controller.recovery.isSome = true →
      s.controller.snapshot.state ≠ .idle → s.controller.snapshot.state ≠ .leaving →
        s.controller.stateMachine.live = true
  | _ => True

theorem deliver_agrees (host : Host) {s t : Sys} (hs : s.controller.Agrees) (h : step host s .deliver = some t) :
    t.controller.Agrees ↔ s.KeepsCopies host .deliver := by
  simp only [step] at h
  split at h
  swap
  · cases h
  rename_i call client id hgate
  split at h
  · cases h
  rename_i response hfind
  cases h
  unfold KeepsCopies
  rw [returns_eq hgate hfind]
  cases hcheck : checkResponse host.jsonMessage call.request.responseType response with
  | error e =>
    have hmends : Mends (.ofAwait (.calling call (.sent client id))) (s.controller, .threw e) := mends_of_agrees hs
    exact ⟨fun _ _ _ hr => (by cases hr), fun _ => resume_mends host hmends⟩
  | ok envelope =>
    by_cases hcall : ∃ poll, call = .refresh poll
    · obtain ⟨poll, rfl⟩ := hcall
      show (TerracottaController.resume host (.refresh poll) _).Agrees ↔ _
      rw [resume_refresh_agrees]
      simp only [answered]
      cases hread : responseSnapshot envelope with
      | none => exact ⟨fun _ _ _ hr => (by cases hr), fun _ => hs⟩
      | some helper =>
        simp only [readPayload]
        rw [refreshAnswered_agrees helper hs]
        constructor
        · rintro hok poll' helper' hr
          cases hr
          exact hok
        · exact fun hok => hok poll helper rfl
    · have hno : ∀ poll, call ≠ .refresh poll := fun poll he => hcall ⟨poll, he⟩
      refine ⟨fun _ poll helper hr => ?_, fun _ => resume_mends host (answered_mends host hs _ envelope hno)⟩
      simp only [Option.map_eq_some_iff, Prod.mk.injEq] at hr
      obtain ⟨-, -, he, -⟩ := hr
      exact absurd he (hno poll)

theorem beside_agrees (host : Host) {s t : Sys} {l : Label} (hs : s.controller.Agrees) (hl : beside l = true)
    (h : step host s l = some t) : t.controller.Agrees ↔ s.KeepsCopies host l := by
  cases l with
  | report i =>
    simp only [step] at h
    split at h
    · cases h
    rename_i willAutoRestart hreport
    cases h
    simp only [KeepsCopies, hreport, Option.some.injEq]
    exact onHelperProcessExited_agrees willAutoRestart hs
  | create request | leave | restartHelper => cases h; exact ⟨fun _ => trivial, fun _ => hs⟩
  | join request => cases h; exact ⟨fun _ => trivial, fun _ => join_agrees request hs⟩
  | refresh => cases h; exact ⟨fun _ => trivial, fun _ => refresh_agrees none hs⟩
  | diagnose command =>
    cases h
    refine ⟨fun _ => trivial, fun _ => ?_⟩
    show (s.controller.diagnose command).Agrees
    unfold diagnose
    split <;> exact hs
  | begin i =>
    refine ⟨fun _ => trivial, fun _ => ?_⟩
    simp only [step] at h
    split at h
    · cases h
    · cases h
    · cases h; exact begin_agrees _ hs
  | settingsLoaded i settings =>
    refine ⟨fun _ => trivial, fun _ => ?_⟩
    simp only [step] at h
    split at h
    · cases h; exact hs
    · cases h
  | cancelWait i | processEnded i now =>
    refine ⟨fun _ => trivial, fun _ => ?_⟩
    simp only [step] at h
    split at h
    · cases h
    · cases h; exact hs
  | handle answers | helperPoll refresh | processExit generation =>
    refine ⟨fun _ => trivial, fun _ => ?_⟩
    simp only [step] at h
    split at h
    · cases h; exact hs
    · cases h
  | push sequence event => cases h; exact ⟨fun _ => trivial, fun _ => push_agrees sequence event hs⟩
  | gameOutput sessionId text => cases h; exact ⟨fun _ => trivial, fun _ => onGameOutput_agrees host sessionId text hs⟩
  | launchEvent sessionId state => cases h; exact ⟨fun _ => trivial, fun _ => onLaunchEvent_agrees sessionId state hs⟩
  | pollTick =>
    simp only [step, Option.map_eq_some_iff] at h
    obtain ⟨c, hc, rfl⟩ := h
    exact ⟨fun _ => trivial, fun _ => pollTick_agrees hs hc⟩
  | restartStopped outcome =>
    refine ⟨fun _ => trivial, fun _ => ?_⟩
    simp only [step] at h
    split at h
    · cases h
      show TerracottaController.Agrees (if outcome = .completed then _ else _)
      split
      · unfold restartStopped
        split
        · exact publishFault_agrees _ _ _
        · exact hs
      · exact hs
    · cases h
  | commandFailed i =>
    refine ⟨fun _ => trivial, fun _ => ?_⟩
    simp only [step] at h
    split at h
    · cases h
    · cases h
      show TerracottaController.Agrees _
      unfold commandFailed
      split
      · exact publishFault_agrees _ _ _
      · exact hs
  | enter i scene | clientReady | startFails launched outcome e | send id | deliver | stopped | stopFails outcome e
  | written | throws e => cases hl

/-- **One step keeps the two copies together exactly when it meets the condition.** -/
theorem step_agrees (host : Host) {s t : Sys} {l : Label} (hs : s.controller.Agrees) (h : step host s l = some t) :
    t.controller.Agrees ↔ s.KeepsCopies host l := by
  by_cases hl : beside l = true
  · exact beside_agrees host hs hl h
  by_cases hd : l = .deliver
  · subst hd
    exact deliver_agrees host hs h
  have hok : s.KeepsCopies host l := by
    cases l <;> first | exact absurd rfl hd | exact absurd rfl hl | trivial
  refine ⟨fun _ => hok, fun _ => ?_⟩
  by_cases hthrows : ∃ e, l = .throws e
  · obtain ⟨e, rfl⟩ := hthrows
    simp only [step] at h
    split at h
    · cases h
      exact resume_mends host (mends_of_agrees hs)
    · cases h
  cases step_turns h with
  | aside hb _ => exact absurd hb hl
  | enters i scene op _ hgate hop hc =>
    rw [hc]
    have hs' : { s.controller with waiting := s.controller.waiting.eraseIdx i }.Agrees := hs
    exact resume_mends host (enter_mends host scene hs' op)
  | getsOn call p q hgate hp hc =>
    rw [hc]
    exact hs
  | goesOn await piece hgate hpiece hc =>
    rw [hc]
    refine resume_mends host ?_
    cases hpiece with
    | thrown await e _ => exact mends_of_agrees hs
    | refused call client id e he => exact mends_of_agrees hs
    | answered call client id response =>
      -- a response is answered by a delivery only
      exfalso
      cases l <;> simp [step, hgate] at h <;> first | exact hd rfl | exact hl rfl | exact hthrows ⟨_, rfl⟩
    | stopped stop _ => exact stopped_mends hs stop
    | saved copies => exact mends_of_agrees hs
    | copied => exact mends_of_agrees hs

theorem keepsCopies_iff (host : Host) (s : Sys) (l : Label) (hs : s.controller.Agrees) :
    s.KeepsCopies host l ↔ ∀ t, step host s l = some t → t.controller.Agrees := by
  refine ⟨fun hok t h => (step_agrees host hs h).2 hok, fun hall => ?_⟩
  cases h : step host s l with
  | some t => exact (step_agrees host hs h).1 (hall t h)
  | none =>
    -- the condition asks something of a step only where it is enabled
    cases l with
    | deliver =>
      intro poll helper hr
      unfold returns at hr
      split at hr
      · rename_i call client id hgate
        simp only [Option.bind_eq_bind, Option.bind_eq_some_iff] at hr
        obtain ⟨response, hfind, -⟩ := hr
        simp [step, hgate, hfind] at h
      · cases hr
    | report i =>
      intro hreport
      simp [step, hreport] at h
    | _ => trivial

/-- **The published state is the machine's in every state of a run exactly when every step meets the condition**: a
refresh is answered with the machine's own state, and a recovery is queued for an open room only. -/
theorem published_state_is_machine_state_iff (host : Host) (labels : List Label) :
    Run.Always (step host) (fun s => s.controller.snapshot.state = s.controller.stateMachine) init labels ↔
      Run.Along (step host) (KeepsCopies host) init labels :=
  Run.always_iff_along (fun s : Sys => s.controller.Agrees) (keepsCopies_iff host) labels rfl

/-- A healthy room, whose Helper measures an unhealthy network when the poll loop asks it. -/
def refreshUnhealthy : List Label :=
  createRoom ++ [.pollTick, .enter 0 sampleScene, .clientReady, .send "b",
    .handle { willingBackend with refresh := .ok { network := some { healthyNetwork with isHealthy := false } } },
    .deliver]

/-- **A refresh shows `Reconnecting` over a machine in `Connected`**: it publishes the Helper's state, and asks for no
transition. -/
theorem refresh_shows_other_state :
    ¬ Run.Always (step sampleHost) (fun s => s.controller.snapshot.state = s.controller.stateMachine) init
        refreshUnhealthy ∧
      (Run.run (step sampleHost) init refreshUnhealthy).any (fun s =>
        s.controller.snapshot.state = .reconnecting ∧ s.controller.stateMachine = .connected ∧
          s.controller.gate = none) = true := by
  have hend : (Run.run (step sampleHost) init refreshUnhealthy).any (fun s =>
      s.controller.snapshot.state = .reconnecting ∧ s.controller.stateMachine = .connected ∧
        s.controller.gate = none) = true := by decide +kernel
  refine ⟨fun halways => ?_, hend⟩
  obtain ⟨s, hrun, hs⟩ := (Option.any_eq_true _ _).1 hend
  simp only [decide_eq_true_eq] at hs
  have hsame := Run.always_last halways hrun
  rw [hs.1, hs.2.1] at hsame
  cases hsame

end Sys

end Terracotta
