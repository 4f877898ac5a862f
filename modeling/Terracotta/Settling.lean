import Terracotta.Effects
/-!
# Transient states belong to the holder of the gate

An operation moves the state machine to `Creating`, `Joining`, `Leaving` or `Diagnosing` when it has the gate, and back
to a settled state before it releases it: on success, and through `Fault` on every exception but
`OperationCanceledException`.  What runs beside the gate only ever moves the machine to a settled state.  So the one
way to a transient state with a free gate is a cancellation that reaches the holder while it is in such a state.
-/
namespace Terracotta

open TerracottaController (Handler)

/-- The transient state a method is in while it is suspended in an await. -/
def Await.owns : Await → Option TerracottaRoomState
  | .calling (.create _ _ _) _ => some .creating
  | .calling (.join _ _) _ => some .joining
  | .calling .leave _ | .stopping .leaveRoom => some .leaving
  | .calling (.diagnose _ _) _ => some .diagnosing
  | _ => none

/-- A diagnosis comes back to the state it found, which is not `Diagnosing`. -/
def Await.comesBack : Await → Bool
  | .calling (.diagnose previous _) _ => previous ≠ .diagnosing
  | _ => true

/-- The await may hold the gate in this state of the machine. -/
def Await.Fits (await : Await) (state : TerracottaRoomState) : Prop :=
  (state.transient = true → await.owns = some state) ∧ await.comesBack = true

namespace TerracottaController

/-- **A transient state belongs to the holder of the gate.** -/
def Owned (c : TerracottaController) : Prop :=
  match c.gate with
  | none => c.stateMachine.transient = false
  | some await => await.Fits c.stateMachine

variable {c c' : TerracottaController}

theorem Owned.aside {l : Label} (hc : c.Owned) (h : Sys.Aside l c c') : c'.Owned := by
  unfold Owned at hc ⊢
  rw [h.gate]
  rcases h.settled with hm | hm
  · rw [hm]; exact hc
  · cases hg : c.gate with
    | none => exact hm
    | some await =>
      rw [hg] at hc
      exact ⟨fun ht => absurd ht (by rw [hm]; exact Bool.false_ne_true), hc.2⟩

/-! ## Pieces under the gate -/

/-- What a piece has to end with for the gate to be handed on: an await that owns the machine's state, a settled state
at the end of the method, and a settled state where the handler leaves the machine alone. -/
def Settles (handler : Handler) : TerracottaController × Outcome → Prop
  | (c, .wait await) => await.Fits c.stateMachine
  | (c, .done) => c.stateMachine.transient = false
  | (c, .threw e) => e = .canceled ∨ (∃ poll, handler = .refresh poll) → c.stateMachine.transient = false

theorem resume_owned (host : Host) {handler : Handler} {piece : TerracottaController × Outcome}
    (h : Settles handler piece) : (resume host handler piece).Owned := by
  obtain ⟨c, await | _ | e⟩ := piece
  · exact h
  · show TerracottaRoomState.transient _ = false
    cases handler <;> exact h
  · show TerracottaRoomState.transient _ = false
    by_cases he : e = .canceled
    · have hc := h (.inl he)
      cases handler <;> simpa [resume, caught, he] using hc
    · cases handler with
      | faults => simp [resume, caught, he, fault, publishFault_eq, TerracottaRoomState.transient]
      | refresh poll => simpa [resume, caught, he, resumePoll] using h (.inr ⟨poll, rfl⟩)
      | diagnose command => simp [resume, caught, he, fault, publishFault_eq, TerracottaRoomState.transient]
      | recover => simp [resume, caught, he, fault, publishFault_eq, TerracottaRoomState.transient]

theorem settles_threw (c : TerracottaController) {handler : Handler} {e : Exn} (he : e ≠ .canceled)
    (hh : ∀ poll, handler ≠ .refresh poll) : Settles handler (c, .threw e) := by
  rintro (h | ⟨poll, h⟩)
  · exact absurd h he
  · exact absurd h (hh poll)

theorem not_refresh_faults (poll : Option Nat) : Handler.faults ≠ .refresh poll := Handler.noConfusion

theorem createEnter_settles (host : Host) (scene : Scene) (request : TerracottaCreateRoomRequest)
    (c : TerracottaController) : Settles .faults (c.createEnter host scene request) := by
  have h := createEnter_enters host scene request c
  generalize c.createEnter host scene request = piece at h
  cases h with
  | refused h => exact settles_threw _ (by simp) not_refresh_faults
  | waits h pending state snapshot hstate hsnapshot =>
    obtain rfl | rfl := hstate <;> rfl
  | stuck h pending e he => exact settles_threw _ he not_refresh_faults
  | badPort h message => exact settles_threw _ (by simp) not_refresh_faults
  | calls h snapshot sessionId lanAddress hsnapshot => exact ⟨fun _ => rfl, rfl⟩

theorem joinEnter_settles (request : TerracottaJoinRoomRequest) (code : String) (c : TerracottaController) :
    Settles .faults (c.joinEnter request code) := by
  have h := joinEnter_enters request code c
  generalize c.joinEnter request code = piece at h
  cases h with
  | refused h => exact settles_threw _ (by simp) not_refresh_faults
  | calls h snapshot hsnapshot => exact ⟨fun _ => rfl, rfl⟩

theorem leaveEnter_settles (c : TerracottaController) : Settles .faults c.leaveEnter := by
  have h := leaveEnter_enters c
  generalize c.leaveEnter = piece at h
  cases h with
  | idle h =>
    show TerracottaRoomState.transient _ = false
    rw [h]; rfl
  | stops h => exact ⟨fun ht => (by cases ht), rfl⟩
  | calls h => exact ⟨fun _ => rfl, rfl⟩
  | stuck h e he => exact settles_threw _ he not_refresh_faults

theorem diagnoseEnter_settles (command : Bool) {c : TerracottaController} (hc : c.stateMachine.transient = false) :
    Settles (.diagnose command) (c.diagnoseEnter command) := by
  have hprev : c.stateMachine ≠ .diagnosing := fun h => by rw [h] at hc; cases hc
  unfold diagnoseEnter
  split
  · exact settles_threw _ (by simp) (fun _ => Handler.noConfusion)
  · simp only
    rw [if_pos hprev]
    split
    · rename_i e he
      exact settles_threw _ (transitionTo_error he) (fun _ => Handler.noConfusion)
    · rename_i d hd
      obtain ⟨rfl, -⟩ := transitionTo_ok hd
      exact ⟨fun _ => rfl, by simpa [Await.comesBack] using hprev⟩

/-- **What an operation does first with the gate.** -/
theorem enter_settles (host : Host) (scene : Scene) {c : TerracottaController} (hc : c.stateMachine.transient = false) :
    ∀ op, Settles (.ofOp op) (c.enter host scene op)
  | .create request => createEnter_settles host scene request c
  | .join request code => joinEnter_settles request code c
  | .leave => leaveEnter_settles c
  | .refresh _ => ⟨fun h => absurd h (by rw [hc]; exact Bool.false_ne_true), rfl⟩
  | .diagnose command => diagnoseEnter_settles command hc
  | .recover _ => ⟨fun h => absurd h (by rw [hc]; exact Bool.false_ne_true), rfl⟩

theorem settled_of_fits {await : Await} {state : TerracottaRoomState} (h : await.Fits state)
    (hown : await.owns = none) : state.transient = false := by
  by_contra ht
  have hs := h.1 (by simpa using ht)
  rw [hown] at hs
  cases hs

theorem copy_settles (host : Host) (copies : Copies) {c : TerracottaController} (hc : c.stateMachine.transient = false) :
    Settles .faults (c.copy host copies) := by
  have hany : ∀ text : Option String,
      Settles .faults (c, if text.isSome && host.clipboard then .wait .copying else .done) := by
    intro text
    split
    · exact ⟨fun h => absurd h (by rw [hc]; exact Bool.false_ne_true), rfl⟩
    · exact hc
  exact hany _

theorem createConnected_settles (request : TerracottaCreateRoomRequest) (sessionId lanAddress : String)
    (connected : TerracottaRoomSnapshot) (c : TerracottaController) :
    Settles .faults (c.createConnected request sessionId lanAddress connected) := by
  unfold createConnected
  split
  · rename_i e he
    exact settles_threw _ (transitionTo_error he) not_refresh_faults
  · rename_i d hd
    obtain ⟨rfl, -⟩ := transitionTo_ok hd
    refine ⟨fun h => absurd h ?_, rfl⟩
    simp [selectSession, publish, TerracottaRoomState.transient]

theorem joinConnected_settles (host : Host) (request : TerracottaJoinRoomRequest) (code : String)
    (connected : TerracottaRoomSnapshot) (c : TerracottaController) :
    Settles .faults (c.joinConnected host request code connected) := by
  unfold joinConnected
  split
  · rename_i e he
    exact settles_threw _ (transitionTo_error he) not_refresh_faults
  · rename_i d hd
    obtain ⟨rfl, -⟩ := transitionTo_ok hd
    simp only
    split
    · refine ⟨fun h => absurd h ?_, rfl⟩
      simp [selectSession, publish, TerracottaRoomState.transient]
    · exact copy_settles host _ (by simp [publish, TerracottaRoomState.transient])

theorem refreshAnswered_settles {poll : Option Nat} (helper : TerracottaRoomSnapshot) {c : TerracottaController}
    (hc : c.stateMachine.transient = false) : Settles (.refresh poll) (c.refreshAnswered helper) := by
  unfold refreshAnswered
  split
  · exact hc
  split
  · simp only
    split
    · exact fun _ => by rw [stopStatusPolling_stateMachine]; exact hc
    · rename_i d hd
      obtain ⟨rfl, -⟩ := transitionTo_ok hd
      rfl
  · exact hc

theorem diagnoseAnswered_settles {previous : TerracottaRoomState} {command : Bool} {phase : CallPhase}
    (network : TerracottaNetworkStatus) {c : TerracottaController}
    (hc : (Await.calling (.diagnose previous command) phase).Fits c.stateMachine) :
    Settles (.diagnose command) (c.diagnoseAnswered previous network) := by
  have hprev : previous ≠ .diagnosing := by simpa [Await.comesBack] using hc.2
  unfold diagnoseAnswered
  split
  · rename_i e he
    split at he
    · exact settles_threw _ (transitionTo_error he) (fun _ => Handler.noConfusion)
    · cases he
  · rename_i d hd
    split at hd
    · obtain ⟨rfl, -⟩ := transitionTo_ok hd
      show TerracottaRoomState.transient (if previous = .reconnecting then .reconnecting else .connected) = false
      split <;> rfl
    · rename_i hno
      cases hd
      show c.stateMachine.transient = false
      by_contra ht
      have hs := hc.1 (by simpa using ht)
      exact hno ⟨(Option.some.inj hs).symm, hprev⟩

theorem recoverConnected_settles (connected : TerracottaRoomSnapshot) (c : TerracottaController) :
    Settles .recover (c.recoverConnected connected) := by
  unfold recoverConnected
  split
  · rename_i e he
    split at he
    · exact settles_threw _ (transitionTo_error he) (fun _ => Handler.noConfusion)
    · cases he
  · rename_i d hd
    have hm : d.stateMachine = .connected := by
      split at hd
      · obtain ⟨rfl, -⟩ := transitionTo_ok hd
        rfl
      · rename_i hno
        cases hd
        exact not_not.1 hno
    show TerracottaRoomState.transient _ = false
    rw [startStatusPolling_stateMachine]
    show d.stateMachine.transient = false
    rw [hm]; rfl

/-- **What an operation does with the answer of its gateway call.** -/
theorem answered_settles (host : Host) {c : TerracottaController} {phase : CallPhase} (response : Envelope) :
    ∀ {call : Call}, (Await.calling call phase).Fits c.stateMachine →
      Settles (.ofAwait (.calling call phase)) (c.answered host call response)
  | .create request sessionId lanAddress, h => by
    simp only [answered]
    split
    · rename_i e he
      exact settles_threw _ (readPayload_error he) not_refresh_faults
    · exact createConnected_settles request sessionId lanAddress _ c
  | .join request code, h => by
    simp only [answered]
    split
    · rename_i e he
      exact settles_threw _ (readPayload_error he) not_refresh_faults
    · exact joinConnected_settles host request code _ c
  | .leave, h => h
  | .refresh poll, h => by
    have hc := settled_of_fits h rfl
    simp only [answered]
    split
    · exact fun _ => hc
    · exact refreshAnswered_settles _ hc
  | .diagnose previous command, h => by
    simp only [answered]
    split
    · rename_i e he
      exact settles_threw _ (readPayload_error he) (fun _ => Handler.noConfusion)
    · exact diagnoseAnswered_settles _ h
  | .recover request, h => by
    simp only [answered]
    split
    · rename_i e he
      exact settles_threw _ (readPayload_error he) (fun _ => Handler.noConfusion)
    · exact recoverConnected_settles _ c

theorem recoverStopped_settles (intent : RecoveryIntent) {c : TerracottaController}
    (hc : c.stateMachine.transient = false) : Settles .recover (c.recoverStopped intent) := by
  have hfits : ∀ request, (Await.calling (.recover request) .starting).Fits c.stateMachine := fun request =>
    ⟨fun h => absurd h (by rw [hc]; exact Bool.false_ne_true), rfl⟩
  have hthrew : ∀ message, Settles .recover (c, .threw (.other message)) := fun message =>
    settles_threw c (by simp) (fun _ => Handler.noConfusion)
  unfold recoverStopped
  split
  · split
    · split
      · exact hthrew _
      · exact hfits _
    · exact hthrew _
  · split
    · split
      · exact hthrew _
      · exact hfits _
    · exact hthrew _

theorem stopped_settles {c : TerracottaController} : ∀ {stop : Stopping},
    (Await.stopping stop).Fits c.stateMachine → Settles (.ofAwait (.stopping stop)) (c.stopped stop)
  | .leaveWaiting, h => settled_of_fits h rfl
  | .leaveRoom, _ => by
    show Settles .faults c.leaveStopped
    unfold leaveStopped
    split
    · rename_i e he
      exact settles_threw _ (transitionTo_error he) not_refresh_faults
    · rename_i d hd
      obtain ⟨rfl, -⟩ := transitionTo_ok hd
      rfl
  | .recover intent, h => recoverStopped_settles intent (settled_of_fits h rfl)

theorem threw_settles {c : TerracottaController} {await : Await} {e : Exn} (h : await.Fits c.stateMachine)
    (he : e = .canceled → c.stateMachine.transient = false) : Settles (.ofAwait await) (c, .threw e) := by
  rintro (hcancel | ⟨poll, hpoll⟩)
  · exact he hcancel
  · refine settled_of_fits h ?_
    cases await with
    | calling call phase => cases call <;> first | rfl | cases hpoll
    | stopping stop => cases stop <;> first | rfl | cases hpoll
    | saving copies => rfl
    | copying => rfl

theorem fits_phase {call : Call} {p q : CallPhase} {state : TerracottaRoomState}
    (h : (Await.calling call p).Fits state) : (Await.calling call q).Fits state := by
  cases call <;> exact h

end TerracottaController

namespace Sys

open TerracottaController

/-! ## The invariant -/

/-- The condition: no cancellation, of a token or of a disposed client, reaches the holder of the gate in a transient
state. -/
def Uncancelled (s : Sys) : Label → Prop
  | .throws e | .stopFails _ e | .startFails _ _ e => e = .canceled → s.controller.stateMachine.transient = false
  | _ => True

/-- **One step leaves a transient state with the holder of the gate.** -/
theorem step_owned (host : Host) (s : Sys) (l : Label) (t : Sys) (hs : s.controller.Owned) (hok : s.Uncancelled l)
    (h : step host s l = some t) : t.controller.Owned := by
  cases step_turns h with
  | aside _ ha => exact hs.aside ha
  | enters i scene op hl hgate hop hc =>
    rw [Owned, hgate] at hs
    rw [hc]
    exact resume_owned host (enter_settles host scene (by exact hs) op)
  | getsOn call p q hgate _ hc =>
    rw [Owned, hgate] at hs
    rw [hc]
    exact fits_phase hs
  | goesOn await piece hgate hpiece hc =>
    rw [Owned, hgate] at hs
    rw [hc]
    refine resume_owned host ?_
    cases hpiece with
    | thrown _ e he =>
      refine threw_settles hs ?_
      rcases he with rfl | ⟨o, rfl⟩ | ⟨b, o, rfl⟩ <;> exact hok
    | refused _ _ _ e he => exact threw_settles hs (fun hcancel => absurd hcancel he)
    | answered call client id response => exact answered_settles host response hs
    | stopped stop _ => exact stopped_settles hs
    | saved copies => exact copy_settles host copies (settled_of_fits hs rfl)
    | copied => exact settled_of_fits hs rfl

/-! ## A leave whose requests succeed ends in `Idle` -/

/-- The second condition: no fault is published beside the gate while a leave stops the Helper of a room that never
opened. -/
def Unfaulted (s : Sys) (l : Label) : Prop := s.controller.gate = some (.stopping .leaveWaiting) → ¬ FaultsBeside l

/-- What holds while a leave is in an await. -/
def LeaveFits (c : TerracottaController) : Await → Prop
  | .calling .leave _ | .stopping .leaveRoom => c.stateMachine.closed = true
  | .stopping .leaveWaiting => c.stateMachine = .idle ∧ c.snapshot.state = .idle
  | _ => True

def LeaveOn (c : TerracottaController) : Prop := ∀ await, c.gate = some await → LeaveFits c await

/-- **One step keeps the room of a leave closed.** -/
theorem step_leaveOn (host : Host) (s : Sys) (l : Label) (t : Sys) (hs : LeaveOn s.controller) (hok : s.Unfaulted l)
    (h : step host s l = some t) : LeaveOn t.controller := by
  intro await hawait
  by_cases hl : await.leaves = true
  · cases step_leaves h hawait hl with
    | aside ha hgate =>
      have hfit := hs await hgate
      unfold LeaveFits at hfit ⊢
      split at hfit
      · exact ha.closed hfit
      · exact ha.closed hfit
      · exact ha.idle (hok hgate) hfit.1 hfit.2
      · trivial
    | enters d piece he hpiece hc =>
      rw [hc]
      cases he <;> cases hpiece
      · exact ⟨rfl, rfl⟩
      · exact rfl
    | getsOn p hgate hne hc =>
      have hclosed : s.controller.stateMachine.closed = true := hs _ hgate
      rw [hc]
      unfold LeaveFits
      split
      · exact hclosed
      · exact hclosed
      · exact absurd rfl hne
      · trivial
  · unfold LeaveFits
    split <;> trivial

/-- **Every success of its requests brings a leave on, and the last one to `Idle`.** -/
structure LeaveSucceeds (host : Host) (s : Sys) : Prop where
  enters : ∀ (i : Nat) (scene : Scene), s.controller.gate = none → s.controller.waiting[i]? = some .leave →
    ∃ t, step host s (.enter i scene) = some t ∧
      (t.controller.gate = none ∧ t.controller.stateMachine = .idle ∨
        t.controller.gate = some (.stopping .leaveWaiting) ∨ t.controller.gate = some (.calling .leave .starting))
  starts : s.controller.gate = some (.calling .leave .starting) →
    ∃ t client, step host s .clientReady = some t ∧ t.manager.client = some client ∧
      t.controller.gate = some (.calling .leave (.initializing client))
  sends : ∀ (client : Nat) (id : String), s.controller.gate = some (.calling .leave (.initializing client)) →
    s.manager.client = some client → s.helper.fresh id = true →
      ∃ t, step host s (.send id) = some t ∧ t.controller.gate = some (.calling .leave (.sent client id))
  answered : ∀ (client : Nat) (id : String) (response read : Envelope),
    s.controller.gate = some (.calling .leave (.sent client id)) →
    s.helper.responses.find? (fun response => response.id = id) = some response →
    checkResponse host.jsonMessage HelperRequest.leave.responseType response = .ok read →
      ∃ t, step host s .deliver = some t ∧ t.controller.gate = some (.stopping .leaveRoom)
  stopped : ∀ stop, s.controller.gate = some (.stopping stop) → stop = .leaveWaiting ∨ stop = .leaveRoom →
    ∃ t, step host s .stopped = some t ∧ t.controller.gate = none ∧ t.controller.stateMachine = .idle

theorem resume_leaveEnters (host : Host) {d : TerracottaController} {piece : TerracottaController × Outcome}
    (h : LeaveEnters d piece) (hd : d.stateMachine ≠ .diagnosing) :
    let c := TerracottaController.resume host .faults piece
    c.gate = none ∧ c.stateMachine = .idle ∨
      c.gate = some (.stopping .leaveWaiting) ∨ c.gate = some (.calling .leave .starting) := by
  cases h with
  | idle h => exact .inl ⟨rfl, h⟩
  | stops h => exact .inr (.inl rfl)
  | calls h => exact .inr (.inr rfl)
  | stuck h e he => exact absurd h hd

theorem leaveSucceeds {host : Host} {s : Sys} (howned : s.controller.Owned) (hon : LeaveOn s.controller) :
    s.LeaveSucceeds host where
  enters i scene hgate hop := by
    obtain ⟨t, hstep, ht⟩ := step_enter host scene hgate hop
    refine ⟨t, hstep, ?_⟩
    rw [ht]
    refine resume_leaveEnters host (leaveEnter_enters _) ?_
    -- a free gate means no diagnosis is under way
    rw [forgotten_stateMachine]
    intro hdiag
    rw [Owned, hgate, show s.controller.stateMachine = .diagnosing from hdiag] at howned
    cases howned
  starts hgate := by
    refine ⟨_, s.ensureStarted.2, by simp only [step, hgate]; rfl, ?_⟩
    exact ⟨s.ensureStarted_client, rfl⟩
  sends client id hgate hclient hfresh := by
    exact ⟨_, by simp only [step, hgate, hclient, hfresh]; rfl, rfl⟩
  answered client id response read hgate hresponse hread := by
    refine ⟨_, by simp only [step, hgate, hresponse]; rfl, ?_⟩
    show TerracottaController.gate (TerracottaController.resume host .faults _) = _
    rw [show Call.leave.request = HelperRequest.leave from rfl, hread]
    rfl
  stopped stop hgate hstop := by
    have hfit := hon _ hgate
    refine ⟨_, by simp only [step, hgate]; rfl, ?_⟩
    obtain rfl | rfl := hstop
    · exact ⟨rfl, hfit.1⟩
    · have hcan := RoomStateMachine.canTransitionTo_idle_of_closed hfit
      show TerracottaController.gate (TerracottaController.resume host .faults s.controller.leaveStopped) = none ∧
        TerracottaController.stateMachine (TerracottaController.resume host .faults s.controller.leaveStopped) = .idle
      rw [leaveStopped, transitionTo_of_can hcan]
      exact ⟨rfl, rfl⟩

def decideUncancelled (s : Sys) : Label.Decider s.Uncancelled where
  throws _ := inferInstanceAs (Decidable (_ → _))
  stopFails _ _ := inferInstanceAs (Decidable (_ → _))
  startFails _ _ _ := inferInstanceAs (Decidable (_ → _))

instance (s : Sys) (l : Label) : Decidable (s.Uncancelled l) := s.decideUncancelled.at l

def decideFaultsBeside : Label.Decider FaultsBeside where
  join _ := inferInstanceAs (Decidable (_ = _))

instance (l : Label) : Decidable (FaultsBeside l) := decideFaultsBeside.at l

instance (s : Sys) (l : Label) : Decidable (s.Unfaulted l) := inferInstanceAs (Decidable (_ → _))

end Sys

open Sys in
/-- **With the gate free the machine is settled, and a leave ends in `Idle`**: in every run in which no cancellation
reaches the holder of the gate in a transient state; the second part where no fault is published beside a leave that
stops the Helper of a room that never opened. -/
theorem free_gate_is_settled (host : Host) (labels : List Label) (s : Sys)
    (hcancel : Run.Along (step host) Uncancelled init labels) (hrun : Run.run (step host) init labels = some s) :
    (s.controller.gate = none → s.controller.stateMachine.transient = false) ∧
      (Run.Along (step host) Unfaulted init labels → s.LeaveSucceeds host) := by
  have howned : s.controller.Owned :=
    Run.invariant (fun s => s.controller.Owned) (step_owned host) (show TerracottaRoomState.transient .idle = false from rfl)
      hcancel hrun
  refine ⟨fun hgate => ?_, fun hfault => ?_⟩
  · rw [TerracottaController.Owned, hgate] at howned
    exact howned
  · have hinit : LeaveOn Sys.init.controller := fun await h => by cases h
    exact leaveSucceeds howned (Run.invariant (fun s => LeaveOn s.controller) (step_leaveOn host) hinit hfault hrun)

def createAndDiagnose : List Label :=
  createRoom ++ [.diagnose false, .enter 0 sampleScene, .clientReady, .send "b", .handle willingBackend, .deliver]

open Sys in
theorem diagnosed_room_is_settled :
    ∃ s, Run.run (step sampleHost) init createAndDiagnose = some s ∧ s.controller.gate = none ∧
      s.controller.stateMachine.transient = false ∧ s.LeaveSucceeds sampleHost := by
  have hall : (Run.run (step sampleHost) init createAndDiagnose).any (fun s => s.controller.gate.isNone) = true := by
    decide +kernel
  cases hs : Run.run (step sampleHost) init createAndDiagnose with
  | none => rw [hs] at hall; cases hall
  | some s =>
    have hgate : s.controller.gate = none := by simpa [hs] using hall
    have h := free_gate_is_settled sampleHost createAndDiagnose s (by decide +kernel) hs
    exact ⟨s, rfl, hgate, h.1 hgate, h.2 (by decide +kernel)⟩

open Sys in
/-- **A create cancelled in its gateway call leaves `Creating` behind with the gate free.** -/
theorem cancelled_create_stays_creating :
    ∃ s, Run.run (step sampleHost) init
        [.create { lanPort := some 25565 }, .enter 0 sampleScene, .clientReady, .send "a", .throws .canceled] = some s ∧
      s.controller.gate = none ∧ s.controller.stateMachine = .creating := by
  refine ⟨_, rfl, rfl, rfl⟩

end Terracotta
