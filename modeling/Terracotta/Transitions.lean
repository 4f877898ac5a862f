import Terracotta.Published
/-!
# What the state machine is asked for

`TransitionTo` throws on a transition outside its table, while the guards of the operations read the machine, or the
published snapshot, on their own.  `asks` lists the states a step asks the machine for, in the order of the calls, and
`step_machine` says that the machine moves by these and nothing else.  Four kinds of steps ask for a transition the
table does not have.
-/
namespace Terracotta

open RoomStateMachine (canTransitionTo)

/-- Each of the states is allowed from the one before it. -/
def LegalFrom : TerracottaRoomState → List TerracottaRoomState → Prop
  | _, [] => True
  | state, next :: asks => canTransitionTo state next = true ∧ LegalFrom next asks

/-- Where the machine gets: an illegal transition throws and leaves it where it is. -/
def follow (state : TerracottaRoomState) (asks : List TerracottaRoomState) : TerracottaRoomState :=
  asks.foldl (fun state next => if canTransitionTo state next then next else state) state

theorem canTransitionTo_faulted (state : TerracottaRoomState) : canTransitionTo state .faulted = true := by
  cases state <;> rfl

namespace TerracottaController

/-! ## The calls of `TransitionTo`, method by method -/

def resetFaultAsks (c : TerracottaController) : List TerracottaRoomState :=
  if c.stateMachine = .faulted then [.idle] else []

def publishFaultAsks (c : TerracottaController) : List TerracottaRoomState :=
  if c.stateMachine ≠ .faulted then [.faulted] else []

def createEnterAsks (host : Host) (scene : Scene) (request : TerracottaCreateRoomRequest) (c : TerracottaController) :
    List TerracottaRoomState :=
  c.resetFaultAsks ++ match c.resetFaultIfNeeded with
    | .error _ => []
    | .ok c =>
      if c.stateMachine ≠ .idle ∧ c.stateMachine ≠ .waitingForGame ∧ c.stateMachine ≠ .waitingForLan then []
      else
        match (GameSessionCoordinator.select scene.sessions request.gameSessionId c.settings.lastSelectedInstanceId
            c.settings.autoDetectGameSession).selected with
        | none => [.waitingForGame]
        | some session => match request.lanPort.or (resolveLanPort host scene session) with
          | none => [.waitingForLan]
          | some _ => [.creating]

def joinEnterAsks (c : TerracottaController) : List TerracottaRoomState :=
  c.resetFaultAsks ++ match c.resetFaultIfNeeded with
    | .error _ => []
    | .ok c => if c.stateMachine ≠ .idle then [] else [.joining]

def leaveEnterAsks (c : TerracottaController) : List TerracottaRoomState :=
  if c.stateMachine = .idle then []
  else if c.stateMachine = .waitingForGame ∨ c.stateMachine = .waitingForLan ∨ c.stateMachine = .faulted then [.idle]
  else [.leaving]

def diagnoseEnterAsks (c : TerracottaController) : List TerracottaRoomState :=
  if !c.snapshot.state.live then [] else if c.stateMachine ≠ .diagnosing then [.diagnosing] else []

def enterAsks (host : Host) (scene : Scene) (c : TerracottaController) : Op → List TerracottaRoomState
  | .create request => c.createEnterAsks host scene request
  | .join _ _ => c.joinEnterAsks
  | .leave => c.leaveEnterAsks
  | .diagnose _ => c.diagnoseEnterAsks
  | .refresh _ | .recover _ => []

def answeredAsks (c : TerracottaController) (call : Call) (response : Envelope) : List TerracottaRoomState :=
  match call with
  | .create _ _ _ | .join _ _ => if (responseSnapshot response).isSome then [.connected] else []
  | .leave => []
  | .refresh _ => match responseSnapshot response with
    | none => []
    | some helper =>
      if helper.state = .connected ∨ helper.state = .reconnecting then []
      else if helper.state = .faulted then [.faulted] else []
  | .diagnose previous _ =>
    if (responseNetwork response).isSome ∧ c.stateMachine = .diagnosing ∧ previous ≠ .diagnosing then
      [if previous = .reconnecting then .reconnecting else .connected] else []
  | .recover _ =>
    if (responseSnapshot response).isSome ∧ c.stateMachine ≠ .connected then [.connected] else []

def stoppedAsks : Stopping → List TerracottaRoomState
  | .leaveRoom => [.idle]
  | .leaveWaiting | .recover _ => []

/-- The call of the handler, after a piece that ended by an exception. -/
def caughtAsks (c : TerracottaController) (handler : Handler) : Outcome → List TerracottaRoomState
  | .threw e => if e = .canceled then [] else match handler with
    | .refresh _ => []
    | .faults | .diagnose _ | .recover => c.publishFaultAsks
  | .wait _ | .done => []

def onHelperProcessExitedAsks (willAutoRestart : Bool) (c : TerracottaController) : List TerracottaRoomState :=
  if c.snapshot.state = .idle ∨ c.snapshot.state = .leaving then []
  else
    (if c.stateMachine.live then if c.stateMachine ≠ .reconnecting then [.reconnecting] else [] else []) ++
      if willAutoRestart && c.recovery.isSome then [] else (c.interrupted willAutoRestart).publishFaultAsks

def applyHelperSnapshotAsks (snapshot : TerracottaRoomSnapshot) (c : TerracottaController) : List TerracottaRoomState :=
  if snapshot.state = .idle then []
  else if snapshot.state = .faulted then c.publishFaultAsks
  else if snapshot.state = .connected ∨ snapshot.state = .reconnecting then
    if c.stateMachine ≠ snapshot.state ∧ canTransitionTo c.stateMachine snapshot.state then [snapshot.state] else []
  else []

def onHelperPushEventAsks (envelope : Envelope) (c : TerracottaController) : List TerracottaRoomState :=
  match envelope.messageType with
  | "room.state-changed" => match pushSnapshot envelope with
    | none => []
    | some snapshot => c.applyHelperSnapshotAsks snapshot
  | "network.updated" => match pushNetwork envelope with
    | none => []
    | some network =>
      let next : TerracottaRoomState := if network.isHealthy then .connected else .reconnecting
      if c.snapshot.state.live ∧ c.stateMachine ≠ next ∧
        (c.stateMachine = .connected ∨ c.stateMachine = .reconnecting) then [next] else []
  | _ => []

end TerracottaController

namespace Sys

open TerracottaController

/-- **The states a step asks `TransitionTo` for**, in the order of the calls. -/
def asks (host : Host) (s : Sys) : Label → List TerracottaRoomState
  | .join request => match RoomCode.tryParse request.roomCode with
    | none => s.controller.publishFaultAsks
    | some _ => []
  | .enter i scene => match s.controller.waiting[i]? with
    | none => []
    | some op =>
      let c := { s.controller with waiting := s.controller.waiting.eraseIdx i }
      c.enterAsks host scene op ++
        (c.enter host scene op).1.caughtAsks (.ofOp op) (c.enter host scene op).2
  | .startFails _ _ e | .throws e | .stopFails _ e => match s.controller.gate with
    | none => []
    | some await => s.controller.caughtAsks (.ofAwait await) (.threw e)
  | .deliver => match s.controller.gate with
    | some (.calling call (.sent client id)) =>
      match s.helper.responses.find? (fun response => response.id = id) with
      | none => []
      | some response =>
        match checkResponse host.jsonMessage call.request.responseType response with
        | .error e => s.controller.caughtAsks (.ofAwait (.calling call (.sent client id))) (.threw e)
        | .ok response =>
          s.controller.answeredAsks call response ++
            (s.controller.answered host call response).1.caughtAsks (.ofAwait (.calling call (.sent client id)))
              (s.controller.answered host call response).2
    | _ => []
  | .stopped => match s.controller.gate with
    | some (.stopping stopping) =>
      stoppedAsks stopping ++
        (s.controller.stopped stopping).1.caughtAsks (.ofAwait (.stopping stopping)) (s.controller.stopped stopping).2
    | _ => []
  | .report i => match s.manager.reports[i]? with
    | none => []
    | some willAutoRestart => s.controller.onHelperProcessExitedAsks willAutoRestart
  | .push sequence event => s.controller.onHelperPushEventAsks (writeEvent sequence event)
  | .restartStopped outcome =>
    if outcome = .completed ∧ s.controller.stateMachine ≠ .idle then s.controller.publishFaultAsks else []
  | .commandFailed _ => if s.controller.snapshot.state ≠ .faulted then s.controller.publishFaultAsks else []
  | .create _ | .leave | .refresh | .diagnose _ | .restartHelper | .begin _ | .settingsLoaded _ _ | .cancelWait _
  | .clientReady | .send _ | .written | .handle _ | .helperPoll _ | .processExit _ | .processEnded _ _
  | .gameOutput _ _ | .launchEvent _ _ | .pollTick => []

end Sys

/-! ## The machine moves by what it is asked for -/

theorem follow_append (state : TerracottaRoomState) (as bs : List TerracottaRoomState) :
    follow state (as ++ bs) = follow (follow state as) bs := List.foldl_append

namespace TerracottaController

theorem transitionTo_follow_ok {c d : TerracottaController} {next : TerracottaRoomState}
    (h : c.transitionTo next = .ok d) : d.stateMachine = follow c.stateMachine [next] := by
  obtain ⟨rfl, hcan⟩ := transitionTo_ok h
  simp [follow, hcan]

theorem transitionTo_follow_error {c : TerracottaController} {next : TerracottaRoomState} {e : Exn}
    (h : c.transitionTo next = .error e) : c.stateMachine = follow c.stateMachine [next] := by
  have hnot : canTransitionTo c.stateMachine next = false := by
    by_contra hcan
    rw [transitionTo_of_can (by simpa using hcan)] at h
    cases h
  simp [follow, hnot]

/-- **A move that is asked for and caught**: what goes on behind it keeps the machine where it is. -/
theorem transitionTo_moves {β : Type} {c : TerracottaController} {next : TerracottaRoomState}
    {bad : Exn → TerracottaController × β} {good : TerracottaController → TerracottaController × β}
    (hbad : ∀ e, (bad e).1.stateMachine = c.stateMachine) (hgood : ∀ d, (good d).1.stateMachine = d.stateMachine) :
    (match c.transitionTo next with
      | .error e => bad e
      | .ok d => good d).1.stateMachine = follow c.stateMachine [next] := by
  cases h : c.transitionTo next with
  | error e => exact (hbad e).trans (transitionTo_follow_error h)
  | ok d => exact (hgood d).trans (transitionTo_follow_ok h)

theorem publishFault_follow (c : TerracottaController) (code message : String) :
    (c.publishFault code message).stateMachine = follow c.stateMachine c.publishFaultAsks := by
  rw [publishFault_eq]
  unfold publishFaultAsks
  by_cases h : c.stateMachine = .faulted
  · rw [if_neg (not_not_intro h)]
    exact h.symm
  · rw [if_pos h]
    simp [follow, canTransitionTo_faulted]

theorem resume_follow (host : Host) (handler : Handler) (piece : TerracottaController × Outcome) :
    (resume host handler piece).stateMachine =
      follow piece.1.stateMachine (piece.1.caughtAsks handler piece.2) := by
  obtain ⟨c, await | _ | e⟩ := piece
  · rfl
  · cases handler <;> rfl
  · show (c.caught host e handler).stateMachine = _
    by_cases he : e = .canceled
    · cases handler <;> simp only [caught, caughtAsks, if_pos he] <;> rfl
    · cases handler with
      | faults => simp only [caught, caughtAsks, if_neg he]; exact publishFault_follow c _ _
      | refresh poll => simp only [caught, caughtAsks, if_neg he]; rfl
      | diagnose command => simp only [caught, caughtAsks, if_neg he]; exact publishFault_follow c _ _
      | recover =>
        simp only [caught, caughtAsks, if_neg he]
        exact publishFault_follow { c with recovery := none } _ _

theorem unfaulted_follow (c : TerracottaController) : c.unfaulted.stateMachine = follow c.stateMachine c.resetFaultAsks := by
  unfold unfaulted resetFaultAsks
  by_cases h : c.stateMachine = .faulted
  · rw [if_pos h, h]
    rfl
  · simp only [if_neg h]
    rfl

theorem transitionAndPublish_follow (c : TerracottaController) (state : TerracottaRoomState)
    (gameSessionId errorCode errorMessage : Option String) :
    (c.transitionAndPublish state gameSessionId errorCode errorMessage).1.stateMachine = follow c.stateMachine [state] := by
  unfold transitionAndPublish
  exact transitionTo_moves (fun _ => rfl) fun _ => rfl

theorem createEnter_follow (host : Host) (scene : Scene) (request : TerracottaCreateRoomRequest)
    (c : TerracottaController) :
    (c.createEnter host scene request).1.stateMachine = follow c.stateMachine (c.createEnterAsks host scene request) := by
  unfold createEnter createEnterAsks
  rw [follow_append, ← unfaulted_follow, resetFaultIfNeeded_eq]
  generalize c.unfaulted = d
  simp only
  split
  · rfl
  cases (GameSessionCoordinator.select scene.sessions request.gameSessionId d.settings.lastSelectedInstanceId
    d.settings.autoDetectGameSession).selected with
  | none => exact transitionAndPublish_follow { d with pendingCreate := some request } _ _ _ _
  | some session =>
    simp only
    cases request.lanPort.or (resolveLanPort host scene session) with
    | none => exact transitionAndPublish_follow { d with pendingCreate := some _ } _ _ _ _
    | some port =>
      simp only
      split
      · rename_i e he
        exact transitionTo_follow_error he
      · rename_i d' hd
        have hm := transitionTo_follow_ok hd
        split
        · exact hm
        · exact hm

theorem joinEnter_follow (request : TerracottaJoinRoomRequest) (code : String) (c : TerracottaController) :
    (c.joinEnter request code).1.stateMachine = follow c.stateMachine c.joinEnterAsks := by
  unfold joinEnter joinEnterAsks
  rw [follow_append, ← unfaulted_follow, resetFaultIfNeeded_eq]
  simp only
  split
  · rfl
  · exact transitionTo_moves (fun _ => rfl) fun _ => rfl

theorem leaveEnter_follow (c : TerracottaController) :
    c.leaveEnter.1.stateMachine = follow c.stateMachine c.leaveEnterAsks := by
  unfold leaveEnter leaveEnterAsks
  simp only [← forgotten_stateMachine c]
  generalize c.forgotten = d
  split
  · rfl
  split
  · exact transitionTo_moves (fun _ => rfl) fun _ => rfl
  · exact transitionTo_moves (fun _ => rfl) fun _ => rfl

theorem enter_follow (host : Host) (scene : Scene) (c : TerracottaController) :
    ∀ op, (c.enter host scene op).1.stateMachine = follow c.stateMachine (c.enterAsks host scene op)
  | .create request => createEnter_follow host scene request c
  | .join request code => joinEnter_follow request code c
  | .leave => leaveEnter_follow c
  | .refresh _ => rfl
  | .diagnose command => by
    simp only [enter, enterAsks, diagnoseEnter, diagnoseEnterAsks]
    split
    · rfl
    split
    · exact transitionTo_moves (fun _ => rfl) fun _ => rfl
    · rfl
  | .recover _ => rfl

theorem answered_follow (host : Host) (c : TerracottaController) (response : Envelope) :
    ∀ call, (c.answered host call response).1.stateMachine = follow c.stateMachine (c.answeredAsks call response)
  | .create request sessionId lanAddress => by
    simp only [answered, answeredAsks]
    cases responseSnapshot response with
    | none => rfl
    | some connected =>
      simp only [readPayload, createConnected]
      split
      · rename_i e he
        exact transitionTo_follow_error he
      · rename_i d hd
        simpa [selectSession, publish] using transitionTo_follow_ok hd
  | .join request code => by
    simp only [answered, answeredAsks]
    cases responseSnapshot response with
    | none => rfl
    | some connected =>
      simp only [readPayload, joinConnected]
      split
      · rename_i e he
        exact transitionTo_follow_error he
      · rename_i d hd
        have hm := transitionTo_follow_ok hd
        split
        · simpa [selectSession, publish] using hm
        · simpa [copy, publish] using hm
  | .leave => rfl
  | .refresh poll => by
    simp only [answered, answeredAsks]
    cases responseSnapshot response with
    | none => rfl
    | some helper =>
      simp only [readPayload, refreshAnswered]
      split
      · rfl
      split
      · rw [← stopStatusPolling_stateMachine c]
        exact transitionTo_moves (fun _ => rfl) fun _ => rfl
      · rfl
  | .diagnose previous command => by
    simp only [answered, answeredAsks]
    cases responseNetwork response with
    | none => rfl
    | some network =>
      simp only [readPayload, diagnoseAnswered, Option.isSome_some, true_and]
      by_cases h : c.stateMachine = .diagnosing ∧ previous ≠ .diagnosing
      · rw [if_pos h, if_pos h]
        exact transitionTo_moves (fun _ => rfl) fun _ => rfl
      · rw [if_neg h, if_neg h]
        rfl
  | .recover request => by
    simp only [answered, answeredAsks]
    cases responseSnapshot response with
    | none => rfl
    | some connected =>
      simp only [readPayload, recoverConnected, Option.isSome_some, true_and]
      by_cases h : c.stateMachine ≠ .connected
      · rw [if_pos h, if_pos h]
        split
        · rename_i e he
          exact transitionTo_follow_error he
        · rename_i d hd
          simpa [publish] using transitionTo_follow_ok hd
      · rw [if_neg h, if_neg h]
        simp [publish, follow]

theorem stopped_follow (c : TerracottaController) :
    ∀ stop, (c.stopped stop).1.stateMachine = follow c.stateMachine (stoppedAsks stop)
  | .leaveWaiting => rfl
  | .leaveRoom => by
    simp only [stopped, leaveStopped, stoppedAsks]
    exact transitionTo_moves (fun _ => rfl) fun _ => rfl
  | .recover intent => by
    simp only [stopped, recoverStopped, stoppedAsks]
    split
    · split
      · split <;> rfl
      · rfl
    · split
      · split <;> rfl
      · rfl

theorem onHelperProcessExited_follow (willAutoRestart : Bool) (c : TerracottaController) :
    (c.onHelperProcessExited willAutoRestart).stateMachine =
      follow c.stateMachine (c.onHelperProcessExitedAsks willAutoRestart) := by
  obtain ⟨hm, -, -, hr, -⟩ := interrupted_fields willAutoRestart c
  have hlive : (c.interrupted willAutoRestart).stateMachine = follow c.stateMachine
      (if c.stateMachine.live then if c.stateMachine ≠ .reconnecting then [.reconnecting] else [] else []) := by
    rw [hm]
    cases c.stateMachine <;> rfl
  unfold onHelperProcessExited onHelperProcessExitedAsks
  split
  · rfl
  simp only [hr]
  rw [follow_append, ← hlive]
  split
  · rfl
  · exact publishFault_follow _ _ _

theorem push_follow (sequence : Nat) {event : RoomEvent} (c : TerracottaController)
    (hevent : ∀ snapshot, event ≠ .stateChanged snapshot) :
    (c.onHelperPushEvent (writeEvent sequence event)).stateMachine =
      follow c.stateMachine (c.onHelperPushEventAsks (writeEvent sequence event)) := by
  rw [onHelperPushEvent_writeEvent]
  cases event with
  | stateChanged snapshot => exact absurd rfl (hevent snapshot)
  | networkUpdated network =>
    have hread : pushNetwork (writeEvent sequence (.networkUpdated network)) = some .blank :=
      NetworkStatus.read_default network
    simp only [onHelperPushEventAsks, hread, show (writeEvent sequence (.networkUpdated network)).messageType =
      "network.updated" from rfl, TerracottaNetworkStatus.blank, Bool.false_eq_true, if_false]
    cases c.snapshot.state.live with
    | false => simp [follow]
    | true => cases c.stateMachine <;> rfl
  | peerJoined member | peerLeft id | peerUpdated member => rfl

end TerracottaController

namespace Sys

open TerracottaController

/-- The labels that ask for nothing. -/
def quiet : Label → Bool
  | .create _ | .leave | .refresh | .diagnose _ | .restartHelper | .begin _ | .settingsLoaded _ _ | .cancelWait _
  | .clientReady | .send _ | .written | .handle _ | .helperPoll _ | .processExit _ | .processEnded _ _
  | .gameOutput _ _ | .launchEvent _ _ | .pollTick => true
  | _ => false

theorem step_quiet_machine {host : Host} {s t : Sys} {l : Label} (h : step host s l = some t) (hl : quiet l = true) :
    t.controller.stateMachine = s.controller.stateMachine := by
  cases l with
  | create _ | leave | restartHelper => cases h; rfl
  | refresh => cases h; exact refresh_stateMachine _ _
  | diagnose command =>
    cases h
    show (s.controller.diagnose command).stateMachine = _
    unfold diagnose
    split <;> rfl
  | begin i =>
    simp only [step] at h
    split at h
    · cases h
    · cases h
    · rename_i task _ _
      cases h
      cases task with
      | loadSettings | resumeCreate _ | leave => rfl
      | refresh => exact refresh_stateMachine _ _
      | recover =>
        simp only [begin]
        split <;> rfl
  | settingsLoaded i settings | handle answers | helperPoll refresh | processExit generation =>
    simp only [step] at h
    split at h
    · cases h; rfl
    · cases h
  | cancelWait i | processEnded i now =>
    simp only [step] at h
    split at h
    · cases h
    · cases h; rfl
  | clientReady =>
    simp only [step] at h
    split at h
    · cases h; rfl
    · cases h
  | send id =>
    simp only [step] at h
    split at h
    · split at h
      · cases h; rfl
      · cases h
    · cases h
  | written =>
    simp only [step] at h
    split at h
    · cases h
      show (TerracottaController.resume host .faults (s.controller.copy host _)).stateMachine = _
      have hany : ∀ b : Bool, follow s.controller.stateMachine
          (caughtAsks s.controller .faults (if b then .wait .copying else .done)) = s.controller.stateMachine := by
        intro b
        cases b <;> rfl
      rw [resume_follow]
      exact hany _
    · cases h; rfl
    · cases h
  | gameOutput sessionId text =>
    cases h
    show (s.controller.onGameOutput host sessionId text).stateMachine = _
    unfold onGameOutput
    split
    · rfl
    split
    · split <;> rfl
    · rfl
  | launchEvent sessionId state =>
    cases h
    show (s.controller.onLaunchEvent sessionId state).stateMachine = _
    unfold onLaunchEvent
    split
    · rfl
    split <;> rfl
  | pollTick =>
    simp only [step, Option.map_eq_some_iff] at h
    obtain ⟨c, hc, rfl⟩ := h
    unfold pollTick at hc
    split at hc
    · simp only at hc
      split at hc
      · cases hc; exact refresh_stateMachine _ _
      · cases hc; rfl
    · cases hc
  | join _ | enter _ _ | startFails _ _ _ | deliver | stopped | stopFails _ _ | throws _ | report _ | push _ _
  | restartStopped _ | commandFailed _ => cases hl

/-- **The machine moves by what the step asks for**, and by `ResetToIdle`. -/
theorem step_machine (host : Host) {s t : Sys} {l : Label} (hl : ¬ Resets l) (h : step host s l = some t) :
    t.controller.stateMachine = follow s.controller.stateMachine (s.asks host l) := by
  cases l with
  | join request =>
    cases h
    simp only [asks, join]
    cases RoomCode.tryParse request.roomCode with
    | none => exact publishFault_follow _ _ _
    | some code => rfl
  | enter i scene =>
    simp only [step] at h
    split at h
    · rename_i op hgate hop
      cases h
      simp only [asks, hop]
      rw [follow_append]
      show (TerracottaController.resume host (.ofOp op) _).stateMachine = _
      rw [resume_follow, enter_follow]
    · cases h
  | startFails launched outcome e =>
    simp only [step] at h
    split at h
    · rename_i call hgate hclient
      cases h
      simp only [asks, hgate]
      exact resume_follow host _ (s.controller, .threw e)
    · cases h
  | throws e =>
    simp only [step] at h
    split at h
    · rename_i await hgate
      cases h
      simp only [asks, hgate]
      exact resume_follow host _ (s.controller, .threw e)
    · cases h
  | stopFails outcome e =>
    simp only [step] at h
    split at h
    · rename_i stop hgate
      cases h
      simp only [asks, hgate]
      exact resume_follow host _ (s.controller, .threw e)
    · cases h
  | deliver =>
    simp only [step] at h
    split at h
    · rename_i call client id hgate
      split at h
      · cases h
      · rename_i response hfind
        cases h
        simp only [asks, hgate, hfind]
        show (TerracottaController.resume host _ _).stateMachine = _
        rw [resume_follow]
        cases checkResponse host.jsonMessage call.request.responseType response with
        | error e => rfl
        | ok envelope => rw [follow_append, ← answered_follow host]
    · cases h
  | stopped =>
    simp only [step] at h
    split at h
    · rename_i stop hgate
      cases h
      simp only [asks, hgate]
      rw [follow_append, ← stopped_follow]
      exact resume_follow host _ _
    · cases h
  | report i =>
    simp only [step] at h
    split at h
    · cases h
    · rename_i willAutoRestart hreport
      cases h
      simp only [asks, hreport]
      exact onHelperProcessExited_follow _ _
  | push sequence event =>
    cases h
    refine push_follow sequence _ (fun snapshot he => hl ?_)
    rw [he]
    trivial
  | restartStopped outcome =>
    simp only [step] at h
    split at h
    · cases h
      simp only [asks]
      show TerracottaController.stateMachine (if outcome = .completed then _ else _) = _
      by_cases ho : outcome = .completed
      · by_cases hm : s.controller.stateMachine = .idle
        · rw [if_pos ho, if_neg (fun h => h.2 hm), restartStopped, if_neg (not_not_intro hm)]
          rfl
        · rw [if_pos ho, if_pos ⟨ho, hm⟩, restartStopped, if_pos hm]
          exact publishFault_follow { s.controller with restarts := s.controller.restarts - 1 } _ _
      · rw [if_neg ho, if_neg (fun h => ho h.1)]
        rfl
    · cases h
  | commandFailed i =>
    simp only [step] at h
    split at h
    · cases h
    · cases h
      simp only [asks, commandFailed]
      by_cases hf : s.controller.snapshot.state ≠ .faulted
      · rw [if_pos hf, if_pos hf]
        exact publishFault_follow
          { s.controller with failedCommands := s.controller.failedCommands.eraseIdx i } _ _
      · rw [if_neg hf, if_neg hf]
        rfl
  | create _ | leave | refresh | diagnose _ | restartHelper | begin _ | settingsLoaded _ _ | cancelWait _
  | clientReady | send _ | written | handle _ | helperPoll _ | processExit _ | processEnded _ _
  | gameOutput _ _ | launchEvent _ _ | pollTick => exact step_quiet_machine h rfl

end Sys

/-! ## Which of them are legal -/

theorem legalFrom_append {bs : List TerracottaRoomState} (hbs : bs = [] ∨ bs = [.faulted]) :
    ∀ (state : TerracottaRoomState) (as : List TerracottaRoomState), LegalFrom state (as ++ bs) ↔ LegalFrom state as
  | state, [] => by
    refine ⟨fun _ => trivial, fun _ => ?_⟩
    rcases hbs with rfl | rfl
    · trivial
    · exact ⟨canTransitionTo_faulted state, trivial⟩
  | _, next :: as => and_congr_right (fun _ => legalFrom_append hbs next as)

namespace TerracottaController

theorem publishFaultAsks_cases (c : TerracottaController) : c.publishFaultAsks = [] ∨ c.publishFaultAsks = [.faulted] := by
  unfold publishFaultAsks
  split
  · exact .inr rfl
  · exact .inl rfl

theorem caughtAsks_cases (c : TerracottaController) (handler : Handler) (outcome : Outcome) :
    c.caughtAsks handler outcome = [] ∨ c.caughtAsks handler outcome = [.faulted] := by
  cases outcome with
  | wait await => exact .inl rfl
  | done => exact .inl rfl
  | threw e =>
    by_cases he : e = .canceled
    · exact .inl (if_pos he)
    · simp only [caughtAsks, if_neg he]
      cases handler with
      | refresh poll => exact .inl rfl
      | faults | diagnose command | recover => exact publishFaultAsks_cases c

theorem legalFrom_faults {c : TerracottaController} {asks : List TerracottaRoomState}
    (h : asks = [] ∨ asks = [.faulted]) : LegalFrom c.stateMachine asks :=
  (legalFrom_append h c.stateMachine []).2 trivial

/-- The state after `ResetFaultIfNeeded` decides. -/
theorem resetFaultAsks_legal (c : TerracottaController) (asks : List TerracottaRoomState) :
    LegalFrom c.stateMachine (c.resetFaultAsks ++ asks) ↔ LegalFrom c.unfaulted.stateMachine asks := by
  unfold resetFaultAsks unfaulted
  by_cases h : c.stateMachine = .faulted
  · rw [if_pos h, h]
    exact ⟨fun hl => hl.2, fun hl => ⟨rfl, hl⟩⟩
  · rw [if_neg h]
    simp only [if_neg h, List.nil_append]

/-- No session is selected for a create. -/
def SelectsNone (scene : Scene) (request : TerracottaCreateRoomRequest) (c : TerracottaController) : Prop :=
  (GameSessionCoordinator.select scene.sessions request.gameSessionId c.settings.lastSelectedInstanceId
    c.settings.autoDetectGameSession).selected = none

theorem createEnterAsks_legal (host : Host) (scene : Scene) (request : TerracottaCreateRoomRequest)
    (c : TerracottaController) : LegalFrom c.stateMachine (c.createEnterAsks host scene request) ↔
      ¬ (c.stateMachine = .waitingForLan ∧ c.SelectsNone scene request) := by
  unfold createEnterAsks
  rw [resetFaultAsks_legal, resetFaultIfNeeded_eq]
  have hwait : c.unfaulted.stateMachine = .waitingForLan ↔ c.stateMachine = .waitingForLan := by
    unfold unfaulted
    by_cases h : c.stateMachine = .faulted <;> simp [h]
  rw [← hwait]
  have hselect : c.SelectsNone scene request ↔ c.unfaulted.SelectsNone scene request := Iff.rfl
  rw [hselect]
  generalize c.unfaulted = d
  simp only
  split
  · rename_i hguard
    exact ⟨fun _ h => hguard.2.2 h.1, fun _ => trivial⟩
  rename_i hguard
  split
  · rename_i hnone
    show canTransitionTo d.stateMachine .waitingForGame = true ∧ True ↔ _
    refine ⟨fun h hw => ?_, fun h => ⟨?_, trivial⟩⟩
    · rw [hw.1] at h
      cases h.1
    · have hnot : d.stateMachine ≠ .waitingForLan := fun hw => h ⟨hw, hnone⟩
      revert hguard hnot
      cases d.stateMachine <;> decide
  · rename_i session hsome
    have hopen : ∀ next, next = .waitingForLan ∨ next = .creating → canTransitionTo d.stateMachine next = true := by
      rintro next (rfl | rfl) <;> revert hguard <;> cases d.stateMachine <;> decide
    refine ⟨fun _ h => ?_, fun _ => ?_⟩
    · rw [SelectsNone, hsome] at h
      cases h.2
    · split
      · exact ⟨hopen _ (.inl rfl), trivial⟩
      · exact ⟨hopen _ (.inr rfl), trivial⟩

theorem joinEnterAsks_legal (c : TerracottaController) : LegalFrom c.stateMachine c.joinEnterAsks := by
  unfold joinEnterAsks
  rw [resetFaultAsks_legal, resetFaultIfNeeded_eq]
  simp only
  split
  · trivial
  · rename_i h
    rw [not_not.1 h]
    exact ⟨rfl, trivial⟩

theorem leaveEnterAsks_legal (c : TerracottaController) :
    LegalFrom c.stateMachine c.leaveEnterAsks ↔ c.stateMachine ≠ .diagnosing := by
  unfold leaveEnterAsks
  cases c.stateMachine <;> simp [LegalFrom] <;> decide

theorem diagnoseEnterAsks_legal (c : TerracottaController) : LegalFrom c.stateMachine c.diagnoseEnterAsks ↔
    (c.snapshot.state.live = true → c.stateMachine.live = true ∨ c.stateMachine = .faulted) := by
  unfold diagnoseEnterAsks
  cases hl : c.snapshot.state.live with
  | false => exact ⟨fun _ h => (by cases h), fun _ => trivial⟩
  | true => cases c.stateMachine <;> simp [LegalFrom, TerracottaRoomState.live] <;> decide

/-- The states the gateway call of a create or a join can be answered in. -/
def Opening (c : TerracottaController) : Prop :=
  c.stateMachine = .creating ∨ c.stateMachine = .joining ∨ c.stateMachine = .reconnecting ∨ c.stateMachine = .idle ∨
    c.stateMachine = .faulted

theorem Opening.legal {c : TerracottaController} (h : c.Opening) :
    LegalFrom c.stateMachine [.connected] ↔ c.stateMachine ≠ .idle ∧ c.stateMachine ≠ .faulted := by
  obtain h | h | h | h | h := h <;> rw [h] <;> simp [LegalFrom] <;> decide

theorem recoverAsks_legal (c : TerracottaController) :
    LegalFrom c.stateMachine (if c.stateMachine ≠ .connected then [.connected] else []) ↔
      c.stateMachine.inRoom = true ∧ c.stateMachine ≠ .leaving := by
  cases c.stateMachine <;> simp [LegalFrom, TerracottaRoomState.inRoom] <;> decide

end TerracottaController

namespace Sys

open TerracottaController

/-- What holds of the machine while a create, a join or a leave is in its gateway call. -/
def Underway (c : TerracottaController) : Await → Prop
  | .calling (.create _ _ _) _ | .calling (.join _ _) _ => c.Opening
  | .calling .leave _ | .stopping .leaveRoom => c.stateMachine.closed = true
  | _ => True

def AllUnderway (s : Sys) : Prop := ∀ await, s.controller.gate = some await → Underway s.controller await

theorem Aside.opening {l : Label} {c c' : TerracottaController} (h : Aside l c c') (hc : c.Opening) : c'.Opening := by
  rcases h.machine with hm | hm | hm | ⟨-, hm⟩
  · unfold Opening
    rw [hm]
    exact hc
  · exact .inr (.inr (.inr (.inr hm)))
  · exact .inr (.inr (.inl hm))
  · exact .inr (.inr (.inr (.inl hm)))

theorem Aside.underway {l : Label} {c c' : TerracottaController} (h : Aside l c c') {await : Await}
    (hc : Underway c await) : Underway c' await := by
  unfold Underway at hc ⊢
  split at hc
  · exact h.opening hc
  · exact h.opening hc
  · exact h.closed hc
  · exact h.closed hc
  · trivial

theorem enter_underway {host : Host} {scene : Scene} {c : TerracottaController} {await : Await} :
    ∀ {op : Op}, (c.enter host scene op).2 = .wait await → Underway (c.enter host scene op).1 await
  | .create request, h => by
    have he := createEnter_enters host scene request c
    change (c.createEnter host scene request).2 = _ at h
    show Underway (c.createEnter host scene request).1 await
    generalize c.createEnter host scene request = piece at he h
    cases he <;> cases h
    exact .inl rfl
  | .join request code, h => by
    have he := joinEnter_enters request code c
    change (c.joinEnter request code).2 = _ at h
    show Underway (c.joinEnter request code).1 await
    generalize c.joinEnter request code = piece at he h
    cases he <;> cases h
    exact .inr (.inl rfl)
  | .leave, h => by
    have he := leaveEnter_enters c
    change c.leaveEnter.2 = _ at h
    show Underway c.leaveEnter.1 await
    generalize c.leaveEnter = piece at he h
    cases he <;> cases h
    · trivial
    · exact rfl
  | .refresh poll, h => by cases h; trivial
  | .diagnose command, h => by
    rw [diagnoseEnter_wait h]
    trivial
  | .recover intent, h => by cases h; trivial

theorem underway_of_opened {c : TerracottaController} {await : Await} (h : await.opened = true) : Underway c await := by
  cases await with
  | calling call phase => cases h
  | stopping stop => cases h
  | saving copies => trivial
  | copying => trivial

theorem stopped_underway {c : TerracottaController} {await : Await} : ∀ {stop : Stopping},
    (c.stopped stop).2 = .wait await → ∃ request, await = .calling (.recover request) .starting
  | .leaveWaiting, h => by cases h
  | .leaveRoom, h => by
    change c.leaveStopped.2 = _ at h
    unfold leaveStopped at h
    split at h <;> cases h
  | .recover intent, h => by
    change (c.recoverStopped intent).2 = _ at h
    unfold recoverStopped at h
    split at h
    · split at h
      · split at h <;> cases h
        exact ⟨_, rfl⟩
      · cases h
    · split at h
      · split at h <;> cases h
        exact ⟨_, rfl⟩
      · cases h

theorem step_underway (host : Host) (s : Sys) (l : Label) (t : Sys) (hs : s.AllUnderway)
    (h : step host s l = some t) : t.AllUnderway := by
  intro await hgate
  cases step_turns h with
  | aside _ ha => exact ha.underway (hs await (ha.gate ▸ hgate))
  | enters i scene op _ _ _ hc =>
    rw [hc] at hgate ⊢
    obtain ⟨hwait, hresume⟩ := resume_gate hgate
    rw [hresume]
    exact enter_underway hwait
  | getsOn call p q hcall _ hc =>
    have hcalling := hs _ hcall
    rw [hc] at hgate ⊢
    cases hgate
    cases call <;> exact hcalling
  | goesOn await' piece hbefore hpiece hc =>
    rw [hc] at hgate ⊢
    obtain ⟨hwait, hresume⟩ := resume_gate hgate
    rw [hresume]
    cases hpiece with
    | thrown _ e _ => cases hwait
    | refused _ _ _ e _ => cases hwait
    | answered call client id response =>
      rcases answered_wait hwait with hopened | ⟨rfl, rfl⟩
      · exact underway_of_opened hopened
      · exact hs _ hbefore
    | stopped stop _ =>
      obtain ⟨request, rfl⟩ := stopped_underway hwait
      trivial
    | saved copies => exact underway_of_opened (copy_wait hwait)
    | copied => cases hwait

/-- An operation that gets the gate: a create that waits for a LAN port finds a game to select, a leave does not find
`Diagnosing`, and a diagnosis that finds a live room published finds the machine live or faulted. -/
def OpFits (scene : Scene) (c : TerracottaController) : Op → Prop
  | .create request => ¬ (c.stateMachine = .waitingForLan ∧ c.SelectsNone scene request)
  | .leave => c.stateMachine ≠ .diagnosing
  | .diagnose _ => c.snapshot.state.live = true → c.stateMachine.live = true ∨ c.stateMachine = .faulted
  | .join _ _ | .refresh _ | .recover _ => True

/-- A gateway call that returns a room: nothing has reset or faulted the machine while a create or a join was in it, nor
taken it out of the room while a recovery was. -/
def AnswerFits (c : TerracottaController) : Call → Prop
  | .create _ _ _ | .join _ _ => c.stateMachine ≠ .idle ∧ c.stateMachine ≠ .faulted
  | .recover _ => c.stateMachine.inRoom = true ∧ c.stateMachine ≠ .leaving
  | .leave | .refresh _ | .diagnose _ _ => True

/-- **The condition**, at the two steps that can go wrong. -/
def Fits (host : Host) (s : Sys) : Label → Prop
  | .enter i scene => s.controller.gate = none → ∀ op, s.controller.waiting[i]? = some op → OpFits scene s.controller op
  | .deliver => ∀ call snapshot, s.returns host = some (call, snapshot) → AnswerFits s.controller call
  | _ => True

/-- Every transition the step asks for is in the table. -/
def AsksLegal (host : Host) (s : Sys) (l : Label) : Prop :=
  ∀ t, step host s l = some t → LegalFrom s.controller.stateMachine (s.asks host l)

theorem enterAsks_legal (host : Host) (scene : Scene) (c : TerracottaController) :
    ∀ op, LegalFrom c.stateMachine (c.enterAsks host scene op) ↔ OpFits scene c op
  | .create request => createEnterAsks_legal host scene request c
  | .join _ _ => ⟨fun _ => trivial, fun _ => joinEnterAsks_legal c⟩
  | .leave => leaveEnterAsks_legal c
  | .refresh _ => ⟨fun _ => trivial, fun _ => trivial⟩
  | .diagnose _ => diagnoseEnterAsks_legal c
  | .recover _ => ⟨fun _ => trivial, fun _ => trivial⟩

theorem enter_legal_iff (host : Host) (s : Sys) (i : Nat) (scene : Scene) :
    s.AsksLegal host (.enter i scene) ↔ s.Fits host (.enter i scene) := by
  unfold AsksLegal Fits
  by_cases hgate : s.controller.gate = none
  swap
  · refine ⟨fun _ h => absurd h hgate, fun _ t h => ?_⟩
    simp only [step] at h
    split at h
    · rename_i hg _
      exact absurd hg hgate
    · cases h
  cases hop : s.controller.waiting[i]? with
  | none =>
    refine ⟨fun _ _ op ho => (by rw [hop] at ho; cases ho), fun _ t h => ?_⟩
    simp [step, hgate, hop] at h
  | some op =>
    obtain ⟨t, ht, -⟩ := step_enter host scene hgate hop
    simp only [asks, hop]
    rw [legalFrom_append (caughtAsks_cases _ _ _)]
    have hiff := enterAsks_legal host scene { s.controller with waiting := s.controller.waiting.eraseIdx i } op
    constructor
    · rintro h - op' ho
      cases ho
      have hfits := hiff.1 (h t ht)
      cases op <;> exact hfits
    · intro h t' _
      have hfits := h hgate op rfl
      refine hiff.2 ?_
      cases op <;> exact hfits

theorem answeredAsks_legal {c : TerracottaController} {call : Call} {phase : CallPhase} {envelope : Envelope}
    (hc : Underway c (.calling call phase)) : LegalFrom c.stateMachine (c.answeredAsks call envelope) ↔
      (∀ snapshot, responseSnapshot envelope = some snapshot → AnswerFits c call) := by
  have hopen : c.Opening → (LegalFrom c.stateMachine (if (responseSnapshot envelope).isSome then [.connected] else []) ↔
      ∀ snapshot, responseSnapshot envelope = some snapshot → c.stateMachine ≠ .idle ∧ c.stateMachine ≠ .faulted) := by
    intro ho
    cases responseSnapshot envelope with
    | none => exact ⟨fun _ _ h => (nomatch h), fun _ => trivial⟩
    | some snapshot => exact ⟨fun h _ _ => ho.legal.1 h, fun h => ho.legal.2 (h snapshot rfl)⟩
  cases call with
  | create request sessionId lanAddress => exact hopen hc
  | join request code => exact hopen hc
  | leave => exact ⟨fun _ _ _ => trivial, fun _ => trivial⟩
  | refresh poll =>
    refine ⟨fun _ _ _ => trivial, fun _ => ?_⟩
    simp only [answeredAsks]
    split
    · trivial
    split
    · trivial
    split
    · exact ⟨canTransitionTo_faulted _, trivial⟩
    · trivial
  | diagnose previous command =>
    refine ⟨fun _ _ _ => trivial, fun _ => ?_⟩
    simp only [answeredAsks]
    split
    · rename_i h
      rw [h.2.1]
      split <;> exact ⟨rfl, trivial⟩
    · trivial
  | recover request =>
    simp only [answeredAsks, AnswerFits]
    cases hread : responseSnapshot envelope with
    | none => exact ⟨fun _ _ h => (nomatch h), fun _ => (by simp [LegalFrom])⟩
    | some snapshot =>
      have hiff := recoverAsks_legal c
      simp only [Option.isSome_some, true_and]
      exact ⟨fun h _ _ => hiff.1 h, fun h => hiff.2 (h snapshot rfl)⟩

theorem deliver_legal_iff (host : Host) {s : Sys} (hs : s.AllUnderway) :
    s.AsksLegal host .deliver ↔ s.Fits host .deliver := by
  unfold AsksLegal Fits
  by_cases hsent : ∃ call client id response, s.controller.gate = some (.calling call (.sent client id)) ∧
      s.helper.responses.find? (fun response => response.id = id) = some response
  · obtain ⟨call, client, id, response, hgate, hfind⟩ := hsent
    rw [returns_eq hgate hfind]
    simp only [step, asks, hgate, hfind, Option.some.injEq, forall_eq']
    cases checkResponse host.jsonMessage call.request.responseType response with
    | error e => exact ⟨fun _ _ _ hr => (by cases hr), fun _ => legalFrom_faults (caughtAsks_cases _ _ _)⟩
    | ok envelope =>
      simp only
      rw [legalFrom_append (caughtAsks_cases _ _ _), answeredAsks_legal (hs _ hgate)]
      simp only [Option.map_eq_some_iff, Prod.mk.injEq]
      constructor
      · rintro h call' snapshot ⟨snapshot', hread, rfl, rfl⟩
        exact h snapshot' hread
      · exact fun h snapshot hread => h call snapshot ⟨snapshot, hread, rfl, rfl⟩
  · -- nothing is delivered, and no call returns
    constructor
    · intro _ call snapshot hr
      unfold returns at hr
      split at hr
      · rename_i call' client id hgate
        simp only [Option.bind_eq_bind, Option.bind_eq_some_iff] at hr
        obtain ⟨response, hfind, -⟩ := hr
        exact absurd ⟨call', client, id, response, hgate, hfind⟩ hsent
      · cases hr
    · intro _ t h
      simp only [step] at h
      split at h
      · rename_i call client id hgate
        split at h
        · cases h
        · rename_i response hfind
          exact absurd ⟨call, client, id, response, hgate, hfind⟩ hsent
      · cases h

theorem stoppedAsks_legal {c : TerracottaController} {stop : Stopping} (hc : Underway c (.stopping stop)) :
    LegalFrom c.stateMachine (stoppedAsks stop) := by
  cases stop with
  | leaveWaiting => trivial
  | leaveRoom => exact ⟨RoomStateMachine.canTransitionTo_idle_of_closed hc, trivial⟩
  | recover intent => trivial

theorem onHelperProcessExitedAsks_legal (willAutoRestart : Bool) (c : TerracottaController) :
    LegalFrom c.stateMachine (c.onHelperProcessExitedAsks willAutoRestart) := by
  unfold onHelperProcessExitedAsks
  split
  · trivial
  have hfault : (if (willAutoRestart && c.recovery.isSome) = true then []
      else (c.interrupted willAutoRestart).publishFaultAsks) = [] ∨
      (if (willAutoRestart && c.recovery.isSome) = true then []
        else (c.interrupted willAutoRestart).publishFaultAsks) = [TerracottaRoomState.faulted] := by
    split
    · exact .inl rfl
    · exact publishFaultAsks_cases _
  rw [legalFrom_append hfault]
  cases c.stateMachine <;> simp [LegalFrom, TerracottaRoomState.live] <;> decide

theorem onHelperPushEventAsks_legal (envelope : Envelope) (c : TerracottaController) :
    LegalFrom c.stateMachine (c.onHelperPushEventAsks envelope) := by
  unfold onHelperPushEventAsks
  split
  · split
    · trivial
    unfold applyHelperSnapshotAsks
    split
    · trivial
    split
    · exact legalFrom_faults (publishFaultAsks_cases c)
    split
    · split
      · rename_i h
        exact ⟨h.2, trivial⟩
      · trivial
    · trivial
  · split
    · trivial
    rename_i network _
    have hboth : ∀ next, next = TerracottaRoomState.connected ∨ next = .reconnecting →
        LegalFrom c.stateMachine (if c.snapshot.state.live ∧ c.stateMachine ≠ next ∧
          (c.stateMachine = .connected ∨ c.stateMachine = .reconnecting) then [next] else []) := by
      intro next hnext
      split
      · rename_i h
        refine ⟨?_, trivial⟩
        rcases h.2.2 with hm | hm <;> rcases hnext with rfl | rfl <;> rw [hm] <;> rfl
      · trivial
    refine hboth _ ?_
    split
    · exact .inl rfl
    · exact .inr rfl
  · trivial

/-- **A step asks for legal transitions exactly when it meets the condition.** -/
theorem asksLegal_iff (host : Host) (s : Sys) (l : Label) (hs : s.AllUnderway) :
    s.AsksLegal host l ↔ s.Fits host l := by
  by_cases henter : ∃ i scene, l = .enter i scene
  · obtain ⟨i, scene, rfl⟩ := henter
    exact enter_legal_iff host s i scene
  by_cases hdeliver : l = .deliver
  · subst hdeliver
    exact deliver_legal_iff host hs
  have hok : s.Fits host l := by
    cases l <;> first | exact absurd ⟨_, _, rfl⟩ henter | exact absurd rfl hdeliver | trivial
  refine ⟨fun _ => hok, fun _ t _ => ?_⟩
  have hfault : LegalFrom s.controller.stateMachine s.controller.publishFaultAsks :=
    legalFrom_faults (publishFaultAsks_cases s.controller)
  cases l with
  | join request =>
    simp only [asks]
    split
    · exact hfault
    · trivial
  | startFails launched outcome e | throws e | stopFails outcome e =>
    simp only [asks]
    split
    · trivial
    · exact legalFrom_faults (caughtAsks_cases _ _ _)
  | stopped =>
    simp only [asks]
    split
    · rename_i stop hgate
      rw [legalFrom_append (caughtAsks_cases _ _ _)]
      exact stoppedAsks_legal (hs _ hgate)
    · trivial
  | report i =>
    simp only [asks]
    split
    · trivial
    · exact onHelperProcessExitedAsks_legal _ _
  | push sequence event => exact onHelperPushEventAsks_legal _ _
  | restartStopped outcome | commandFailed i =>
    simp only [asks]
    split
    · exact hfault
    · trivial
  | enter i scene => exact absurd ⟨i, scene, rfl⟩ henter
  | deliver => exact absurd rfl hdeliver
  | create _ | leave | refresh | diagnose _ | restartHelper | begin _ | settingsLoaded _ _ | cancelWait _
  | clientReady | send _ | written | handle _ | helperPoll _ | processExit _ | processEnded _ _
  | gameOutput _ _ | launchEvent _ _ | pollTick => trivial

/-- **Every transition a run asks for is in the table exactly when every step of it meets the condition**: what runs
beside the gate, and what a leave asks for at its end, is legal in every reachable state. -/
theorem transitions_are_legal_iff (host : Host) (labels : List Label) :
    Run.Along (step host) (AsksLegal host) init labels ↔ Run.Along (step host) (Fits host) init labels :=
  Run.along_congr AllUnderway (step_underway host) (asksLegal_iff host) labels (fun _ h => nomatch h)

/-- A create that waits for the LAN world of a game. -/
def createWaits : List Label := [.create {}, .enter 0 sampleScene, .create {}]

/-- The game has ended when the create is tried again. -/
def noGame : Label := .enter 0 ⟨[], none⟩

/-- **A create tried again without a game asks for the step from `WaitingForLan` to `WaitingForGame`**, which is not in
the table, though the guard of the create admits both states: the create fails and the controller is faulted. -/
theorem create_without_game_asks_illegal :
    ¬ Run.Along (step sampleHost) (AsksLegal sampleHost) init (createWaits ++ [noGame]) ∧
      (Run.run (step sampleHost) init (createWaits ++ [noGame])).any (fun s =>
        s.controller.stateMachine = .faulted ∧ s.controller.snapshot.errorMessage =
          some "Invalid Terracotta room transition: WaitingForLan -> WaitingForGame.") = true := by
  have hwaits : (Run.run (step sampleHost) init createWaits).any (fun s =>
      s.controller.stateMachine = .waitingForLan ∧ (step sampleHost s noGame).isSome ∧
        s.asks sampleHost noGame = [.waitingForGame, .faulted]) = true := by decide
  refine ⟨fun halong => ?_, by decide⟩
  obtain ⟨s, hrun, hs⟩ := (Option.any_eq_true _ _).1 hwaits
  simp only [decide_eq_true_eq] at hs
  obtain ⟨hm, henabled, hasks⟩ := hs
  obtain ⟨t, ht⟩ := Option.isSome_iff_exists.1 henabled
  have hlegal := (Run.along_append halong hrun).2.1 t ht
  rw [hm, hasks] at hlegal
  exact absurd hlegal.1 (by decide)

end Sys

end Terracotta
