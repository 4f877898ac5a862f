import Terracotta.System
/-!
# What a step can do to the controller

Every step either runs something beside the gate (`Aside`), lets an operation enter, gets a gateway call on, or runs
the next piece of the method that holds the gate (`Turns`).  The invariants of the modules after this one are read off
these four.
-/
namespace Terracotta

open TerracottaController

/-- How a property of labels is decided: what is not said is plainly true, or plainly false. -/
structure Label.Decider (P : Label → Prop) where
  create : ∀ request, Decidable (P (.create request)) := by intros; first | exact .isTrue trivial | exact .isFalse id
  join : ∀ request, Decidable (P (.join request)) := by intros; first | exact .isTrue trivial | exact .isFalse id
  leave : Decidable (P .leave) := by first | exact .isTrue trivial | exact .isFalse id
  refresh : Decidable (P .refresh) := by first | exact .isTrue trivial | exact .isFalse id
  diagnose : ∀ command, Decidable (P (.diagnose command)) := by
    intros; first | exact .isTrue trivial | exact .isFalse id
  restartHelper : Decidable (P .restartHelper) := by first | exact .isTrue trivial | exact .isFalse id
  begin : ∀ i, Decidable (P (.begin i)) := by intros; first | exact .isTrue trivial | exact .isFalse id
  settingsLoaded : ∀ i settings, Decidable (P (.settingsLoaded i settings)) := by
    intros; first | exact .isTrue trivial | exact .isFalse id
  enter : ∀ i scene, Decidable (P (.enter i scene)) := by intros; first | exact .isTrue trivial | exact .isFalse id
  cancelWait : ∀ i, Decidable (P (.cancelWait i)) := by intros; first | exact .isTrue trivial | exact .isFalse id
  clientReady : Decidable (P .clientReady) := by first | exact .isTrue trivial | exact .isFalse id
  startFails : ∀ launched outcome e, Decidable (P (.startFails launched outcome e)) := by
    intros; first | exact .isTrue trivial | exact .isFalse id
  send : ∀ id, Decidable (P (.send id)) := by intros; first | exact .isTrue trivial | exact .isFalse id
  deliver : Decidable (P .deliver) := by first | exact .isTrue trivial | exact .isFalse id
  stopped : Decidable (P .stopped) := by first | exact .isTrue trivial | exact .isFalse id
  stopFails : ∀ outcome e, Decidable (P (.stopFails outcome e)) := by
    intros; first | exact .isTrue trivial | exact .isFalse id
  written : Decidable (P .written) := by first | exact .isTrue trivial | exact .isFalse id
  throws : ∀ e, Decidable (P (.throws e)) := by intros; first | exact .isTrue trivial | exact .isFalse id
  handle : ∀ answers, Decidable (P (.handle answers)) := by intros; first | exact .isTrue trivial | exact .isFalse id
  helperPoll : ∀ refresh, Decidable (P (.helperPoll refresh)) := by
    intros; first | exact .isTrue trivial | exact .isFalse id
  processExit : ∀ generation, Decidable (P (.processExit generation)) := by
    intros; first | exact .isTrue trivial | exact .isFalse id
  processEnded : ∀ i now, Decidable (P (.processEnded i now)) := by
    intros; first | exact .isTrue trivial | exact .isFalse id
  report : ∀ i, Decidable (P (.report i)) := by intros; first | exact .isTrue trivial | exact .isFalse id
  push : ∀ sequence event, Decidable (P (.push sequence event)) := by
    intros; first | exact .isTrue trivial | exact .isFalse id
  gameOutput : ∀ sessionId text, Decidable (P (.gameOutput sessionId text)) := by
    intros; first | exact .isTrue trivial | exact .isFalse id
  launchEvent : ∀ sessionId state, Decidable (P (.launchEvent sessionId state)) := by
    intros; first | exact .isTrue trivial | exact .isFalse id
  pollTick : Decidable (P .pollTick) := by first | exact .isTrue trivial | exact .isFalse id
  restartStopped : ∀ outcome, Decidable (P (.restartStopped outcome)) := by
    intros; first | exact .isTrue trivial | exact .isFalse id
  commandFailed : ∀ i, Decidable (P (.commandFailed i)) := by
    intros; first | exact .isTrue trivial | exact .isFalse id

/-- A property is decided label by label. -/
def Label.Decider.at {P : Label → Prop} (d : Label.Decider P) : ∀ l, Decidable (P l)
  | .create request => d.create request
  | .join request => d.join request
  | .leave => d.leave
  | .refresh => d.refresh
  | .diagnose command => d.diagnose command
  | .restartHelper => d.restartHelper
  | .begin i => d.begin i
  | .settingsLoaded i settings => d.settingsLoaded i settings
  | .enter i scene => d.enter i scene
  | .cancelWait i => d.cancelWait i
  | .clientReady => d.clientReady
  | .startFails launched outcome e => d.startFails launched outcome e
  | .send id => d.send id
  | .deliver => d.deliver
  | .stopped => d.stopped
  | .stopFails outcome e => d.stopFails outcome e
  | .written => d.written
  | .throws e => d.throws e
  | .handle answers => d.handle answers
  | .helperPoll refresh => d.helperPoll refresh
  | .processExit generation => d.processExit generation
  | .processEnded i now => d.processEnded i now
  | .report i => d.report i
  | .push sequence event => d.push sequence event
  | .gameOutput sessionId text => d.gameOutput sessionId text
  | .launchEvent sessionId state => d.launchEvent sessionId state
  | .pollTick => d.pollTick
  | .restartStopped outcome => d.restartStopped outcome
  | .commandFailed i => d.commandFailed i

namespace Sys

/-- The two labels that publish a fault beside the gate whatever the room: a room code that does not parse, and the
handler of a failed diagnose command. -/
def FaultsBeside : Label → Prop
  | .join request => RoomCode.tryParse request.roomCode = none
  | .commandFailed _ => True
  | _ => False

/-- The push events that reset the controller. -/
def Resets : Label → Prop
  | .push _ (.stateChanged _) => True
  | _ => False

/-- The labels that are a call of `CreateAsync` or `JoinAsync`. -/
def OpensCall (c : TerracottaController) : Label → Prop
  | .create _ | .join _ => True
  | .begin i => ∃ request, c.queued[i]? = some (.resumeCreate request)
  | _ => False

/-- The labels that run beside the gate: neither an operation that enters nor the holder of the gate. -/
def beside : Label → Bool
  | .enter _ _ | .clientReady | .startFails _ _ _ | .send _ | .deliver | .stopped | .stopFails _ _ | .written
  | .throws _ => false
  | _ => true

/-- What it takes for a label to put an operation behind the gate. -/
def Calls (l : Label) (c : TerracottaController) : Op → Prop
  | .create _ | .join _ _ => OpensCall c l
  | .leave | .diagnose _ => True
  | .refresh _ => c.snapshot.state.live = true
  | .recover _ => c.recovery.isSome = true

/-- **What runs beside the gate**: the machine stays or moves to a few settled states, a closed room stays closed, an idle one
idle unless a fault is published, a faulted one faulted unless a push event resets it, and an operation comes to the
gate, or a create to the queue, for a reason. -/
structure Aside (l : Label) (c c' : TerracottaController) : Prop where
  gate : c'.gate = c.gate
  machine : c'.stateMachine = c.stateMachine ∨ c'.stateMachine = .faulted ∨ c'.stateMachine = .reconnecting ∨
    Resets l ∧ c'.stateMachine = .idle
  closed : c.stateMachine.closed = true → c'.stateMachine.closed = true
  idle : ¬ FaultsBeside l → c.stateMachine = .idle → c.snapshot.state = .idle →
    c'.stateMachine = .idle ∧ c'.snapshot.state = .idle
  recovery : c'.recovery = c.recovery
  pending : c'.pendingCreate = c.pendingCreate
  faulted : ¬ Resets l → c.stateMachine = .faulted → c'.stateMachine = .faulted
  live : c.recovery = none → c.snapshot.state.live = false → c'.snapshot.state.live = false
  waiting : ∀ op ∈ c'.waiting, op ∈ c.waiting ∨ Calls l c op
  queued : ∀ request, .resumeCreate request ∈ c'.queued → .resumeCreate request ∈ c.queued ∨ c.pendingCreate.isSome = true

theorem Aside.settled {l : Label} {c c' : TerracottaController} (h : Aside l c c') :
    c'.stateMachine = c.stateMachine ∨ c'.stateMachine.transient = false := by
  rcases h.machine with hm | hm | hm | ⟨-, hm⟩
  · exact .inl hm
  all_goals rw [hm]; exact .inr rfl

/-- The fields a step beside the gate leaves alone unless it is a callback. -/
def core (c : TerracottaController) :=
  (c.gate, c.stateMachine, c.snapshot, c.recovery, c.pendingCreate)

theorem aside_of_core {l : Label} {c c' : TerracottaController} (hcore : core c' = core c)
    (hw : ∀ op ∈ c'.waiting, op ∈ c.waiting ∨ Calls l c op)
    (hq : ∀ request, .resumeCreate request ∈ c'.queued →
      .resumeCreate request ∈ c.queued ∨ c.pendingCreate.isSome = true) : Aside l c c' := by
  simp only [core, Prod.mk.injEq] at hcore
  obtain ⟨hg, hm, hs, hr, hpending⟩ := hcore
  exact ⟨hg, .inl hm, fun h => hm ▸ h, fun _ h1 h2 => ⟨hm.trans h1, hs ▸ h2⟩, hr, hpending, fun _ h => hm.trans h,
    fun _ h => hs ▸ h, hw, hq⟩

theorem aside_same {l : Label} {c c' : TerracottaController} (hcore : core c' = core c)
    (hw : c'.waiting = c.waiting) (hq : c'.queued = c.queued) : Aside l c c' :=
  aside_of_core hcore (fun _ hop => .inl (hw ▸ hop)) (fun _ hop => .inl (hq ▸ hop))

theorem aside_call {l : Label} {c c' : TerracottaController} {op : Op} (hcore : core c' = core c)
    (hw : c'.waiting = c.waiting ++ [op]) (hop : Calls l c op)
    (hq : ∀ task ∈ c'.queued, task ∈ c.queued) : Aside l c c' := by
  refine aside_of_core hcore (fun op' h => ?_) (fun _ h => .inl (hq _ h))
  rw [hw] at h
  rcases List.mem_append.1 h with h | h
  · exact .inl h
  · rw [List.mem_singleton] at h
    exact .inr (h ▸ hop)

theorem aside_queue {l : Label} {c : TerracottaController} (task : Task)
    (h : (∀ request, task ≠ .resumeCreate request) ∨ c.pendingCreate.isSome = true) :
    Aside l c (c.queueOperation task) := by
  refine aside_of_core rfl (fun _ hop => .inl hop) (fun request hq => ?_)
  rcases List.mem_append.1 hq with hq | hq
  · exact .inl hq
  · rw [List.mem_singleton] at hq
    rcases h with h | h
    · exact absurd hq.symm (h request)
    · exact .inr h

theorem aside_fault {l : Label} {c d : TerracottaController} (code message : String)
    (hf : FaultsBeside l ∨ c.stateMachine ≠ .idle ∨ c.snapshot.state ≠ .idle) (hg : d.gate = c.gate)
    (hr : d.recovery = c.recovery) (hpending : d.pendingCreate = c.pendingCreate)
    (hw : ∀ op ∈ d.waiting, op ∈ c.waiting) (hq : d.queued = c.queued) : Aside l c (d.publishFault code message) := by
  rw [publishFault_eq]
  refine ⟨hg, .inr (.inl rfl), fun _ => rfl, fun hno h1 h2 => ?_, hr, hpending, fun _ _ => rfl, fun _ _ => rfl,
    fun op hop => .inl (hw op hop), fun _ h => .inl (hq ▸ h)⟩
  rcases hf with hf | hf | hf
  · exact absurd hf hno
  · exact absurd h1 hf
  · exact absurd h2 hf

theorem join_aside (c : TerracottaController) (request : TerracottaJoinRoomRequest) :
    Aside (.join request) c (c.join request) := by
  unfold join
  cases hp : RoomCode.tryParse request.roomCode with
  | none => exact aside_fault _ _ (.inl hp) rfl rfl rfl (fun _ h => h) rfl
  | some code => exact aside_call rfl rfl trivial (fun _ h => h)

theorem refresh_aside (l : Label) {c d : TerracottaController} (poll : Option Nat) (hcore : core d = core c)
    (hw : d.waiting = c.waiting) (hq : ∀ task ∈ d.queued, task ∈ c.queued) : Aside l c (d.refresh poll) := by
  unfold refresh
  split
  · rename_i hlive
    refine aside_of_core hcore (fun op hop => ?_) (fun _ h => .inl (hq _ h))
    rcases List.mem_append.1 hop with h | h
    · exact .inl (hw ▸ h)
    · rw [List.mem_singleton] at h
      subst h
      simp only [core, Prod.mk.injEq] at hcore
      exact .inr (by rw [hcore.2.2.1] at hlive; exact hlive)
  · exact aside_of_core hcore (fun op hop => .inl (hw ▸ hop)) (fun _ h => .inl (hq _ h))

theorem diagnose_aside (l : Label) (c : TerracottaController) (command : Bool) : Aside l c (c.diagnose command) := by
  unfold diagnose
  split
  · exact aside_same rfl rfl rfl
  · exact aside_call rfl rfl trivial (fun _ h => h)

theorem begin_aside {i : Nat} {c : TerracottaController} {task : Task} (h : c.queued[i]? = some task) :
    Aside (.begin i) c ({ c with queued := c.queued.eraseIdx i }.begin task) := by
  have hq : ∀ task ∈ c.queued.eraseIdx i, task ∈ c.queued := fun _ => List.mem_of_mem_eraseIdx
  cases task with
  | loadSettings => exact aside_of_core rfl (fun _ hop => .inl hop) (fun _ h => .inl (hq _ h))
  | resumeCreate request => exact aside_call rfl rfl ⟨request, h⟩ hq
  | refresh => exact refresh_aside _ none rfl rfl hq
  | leave => exact aside_call rfl rfl trivial hq
  | recover =>
    simp only [begin]
    split
    · exact aside_of_core rfl (fun _ hop => .inl hop) (fun _ h => .inl (hq _ h))
    · rename_i intent hr
      have hsome : c.recovery.isSome = true := by rw [show c.recovery = some intent from hr]; rfl
      exact aside_call rfl rfl hsome hq

theorem pollTick_aside {c c' : TerracottaController} (h : c.pollTick = some c') : Aside .pollTick c c' := by
  unfold pollTick at h
  split at h
  · simp only at h
    split at h
    · cases h
      exact refresh_aside _ _ rfl rfl (fun _ h => h)
    · cases h
      exact aside_of_core rfl (fun _ hop => .inl hop) (fun _ h => .inl h)
  · cases h

theorem onHelperProcessExited_aside (l : Label) (willAutoRestart : Bool) (c : TerracottaController) :
    Aside l c (c.onHelperProcessExited willAutoRestart) := by
  unfold onHelperProcessExited
  split
  · exact aside_same rfl rfl rfl
  rename_i hstate
  have hidle : c.snapshot.state ≠ .idle := fun h => hstate (.inl h)
  obtain ⟨hm, hs, hg, hr, hpending, hw, hq⟩ := interrupted_fields willAutoRestart c
  have hwaiting : ∀ op ∈ (c.interrupted willAutoRestart).waiting, op ∈ c.waiting := fun op hop => by
    rw [hw] at hop
    exact mem_stopStatusPolling_waiting hop
  simp only
  split
  · rename_i hrestart
    refine ⟨hg, ?_, fun h => ?_, fun _ _ h => absurd h hidle, hr, hpending, fun _ h => ?_, fun hnone => ?_,
      fun op hop => .inl (hwaiting op hop), fun request h => ?_⟩
    · by_cases hl : c.stateMachine.live
      · rw [if_pos hl] at hm; exact .inr (.inr (.inl hm))
      · rw [if_neg hl] at hm; exact .inl hm
    · show (c.interrupted willAutoRestart).stateMachine.closed = true
      rw [hm, TerracottaRoomState.not_live_of_closed h]
      exact h
    · show (c.interrupted willAutoRestart).stateMachine = .faulted
      rw [hm, h]
      rfl
    · -- without an intent to recover there is no restart
      rw [hr, hnone] at hrestart
      simp at hrestart
    · rcases List.mem_append.1 h with h | h
      · exact .inl (hq ▸ h)
      · simp at h
  · exact aside_fault _ _ (.inr (.inr hidle)) hg hr hpending hwaiting hq

theorem push_aside (sequence : Nat) (event : RoomEvent) (c : TerracottaController) :
    Aside (.push sequence event) c (c.onHelperPushEvent (writeEvent sequence event)) := by
  rw [onHelperPushEvent_writeEvent]
  cases event with
  | stateChanged snapshot =>
    exact ⟨stopStatusPolling_gate c, .inr (.inr (.inr ⟨trivial, rfl⟩)), fun _ => rfl, fun _ _ _ => ⟨rfl, rfl⟩, stopStatusPolling_recovery c,
      stopStatusPolling_pendingCreate c, fun h => absurd trivial h, fun _ _ => rfl,
      fun op hop => .inl (mem_stopStatusPolling_waiting hop), fun _ h => .inl (stopStatusPolling_queued c ▸ h)⟩
  | networkUpdated network =>
    simp only
    split
    · rename_i hlive
      have hnot : c.snapshot.state.live ≠ false := fun h => by rw [h] at hlive; cases hlive
      by_cases hm : c.stateMachine = .connected
      · rw [if_pos hm]
        exact ⟨rfl, .inr (.inr (.inl rfl)), fun h => (by rw [hm] at h; cases h), fun _ h => (by rw [hm] at h; cases h), rfl, rfl,
          fun _ h => (by rw [hm] at h; cases h), fun _ h => absurd h hnot, fun op hop => .inl hop, fun _ h => .inl h⟩
      · rw [if_neg hm]
        exact ⟨rfl, .inl rfl, id, fun _ h _ => ⟨h, h⟩, rfl, rfl, fun _ h => h, fun _ h => absurd h hnot, fun op hop => .inl hop,
          fun _ h => .inl h⟩
    · exact aside_same rfl rfl rfl
  | peerJoined member => exact aside_queue _ (.inl (fun _ => Task.noConfusion))
  | peerLeft id => exact aside_queue _ (.inl (fun _ => Task.noConfusion))
  | peerUpdated member => exact aside_queue _ (.inl (fun _ => Task.noConfusion))

theorem onGameOutput_aside (l : Label) (host : Host) (sessionId text : String) (c : TerracottaController) :
    Aside l c (c.onGameOutput host sessionId text) := by
  unfold onGameOutput
  split
  · exact aside_same rfl rfl rfl
  rename_i pending hpending
  have hsome : c.pendingCreate.isSome = true := by rw [hpending]; rfl
  split
  · split
    · exact aside_same rfl rfl rfl
    · exact aside_queue _ (.inr hsome)
  · exact aside_same rfl rfl rfl

theorem onLaunchEvent_aside (l : Label) (sessionId : String) (state : PluginGameSessionState)
    (c : TerracottaController) : Aside l c (c.onLaunchEvent sessionId state) := by
  unfold onLaunchEvent
  split
  · rename_i pending hpending
    have hsome : c.pendingCreate.isSome = true := by
      split at hpending
      · rw [hpending]; rfl
      · cases hpending
    exact aside_queue _ (.inr hsome)
  split
  · exact aside_queue _ (.inl (fun _ => Task.noConfusion))
  · exact aside_same rfl rfl rfl

theorem restartStopped_aside (l : Label) (c : TerracottaController) :
    Aside l c { c with restarts := c.restarts - 1 }.restartStopped := by
  unfold restartStopped
  split
  · rename_i h
    exact aside_fault _ _ (.inr (.inl h)) rfl rfl rfl (fun _ h => h) rfl
  · exact aside_same rfl rfl rfl

theorem commandFailed_aside (host : Host) (i : Nat) (e : Exn) (c : TerracottaController) :
    Aside (.commandFailed i) c
      ({ c with failedCommands := c.failedCommands.eraseIdx i }.commandFailed host e) := by
  unfold commandFailed
  split
  · exact aside_fault _ _ (.inl trivial) rfl rfl rfl (fun _ h => h) rfl
  · exact aside_same rfl rfl rfl

theorem checkResponse_error {jsonMessage expected : String} {inbound : Envelope} {e : Exn}
    (h : checkResponse jsonMessage expected inbound = .error e) : e ≠ .canceled := by
  unfold checkResponse at h
  split at h
  · cases h; simp
  split at h
  · split at h <;> cases h <;> simp [Exn.ofHelperError]
  split at h
  · cases h; simp
  · cases h

/-- The pieces that end a suspended method's await. -/
inductive Piece (host : Host) (s : Sys) (l : Label) : Await → TerracottaController × Outcome → Prop
  | thrown (await : Await) (e : Exn) (h : l = .throws e ∨ (∃ o, l = .stopFails o e) ∨ ∃ b o, l = .startFails b o e) :
      Piece host s l await (s.controller, .threw e)
  | refused (call : Call) (client : Nat) (id : String) (e : Exn) (h : e ≠ .canceled) :
      Piece host s l (.calling call (.sent client id)) (s.controller, .threw e)
  | answered (call : Call) (client : Nat) (id : String) (response : Envelope) :
      Piece host s l (.calling call (.sent client id)) (s.controller.answered host call response)
  | stopped (stop : Stopping) (hl : l = .stopped) : Piece host s l (.stopping stop) (s.controller.stopped stop)
  | saved (copies : Copies) : Piece host s l (.saving copies) (s.controller.copy host copies)
  | copied : Piece host s l .copying (s.controller, .done)

/-- **What a step can do to the controller**: something beside the gate, an operation that enters, a gateway call that
gets on, or the next piece of the method that holds the gate. -/
inductive Turns (host : Host) (s : Sys) (l : Label) (c' : TerracottaController) : Prop
  | aside (hl : beside l = true) (h : Aside l s.controller c')
  | enters (i : Nat) (scene : Scene) (op : Op) (hl : l = .enter i scene) (hgate : s.controller.gate = none)
      (hop : s.controller.waiting[i]? = some op)
      (hc : c' = TerracottaController.resume host (.ofOp op)
        ({ s.controller with waiting := s.controller.waiting.eraseIdx i }.enter host scene op))
  | getsOn (call : Call) (p q : CallPhase) (hgate : s.controller.gate = some (.calling call p))
      (hp : ∀ client id, p ≠ .sent client id) (hc : c' = { s.controller with gate := some (.calling call q) })
  | goesOn (await : Await) (piece : TerracottaController × Outcome) (hgate : s.controller.gate = some await)
      (hpiece : Piece host s l await piece) (hc : c' = TerracottaController.resume host (.ofAwait await) piece)

theorem step_turns {host : Host} {s t : Sys} {l : Label} (h : step host s l = some t) :
    Turns host s l t.controller := by
  cases l with
  | create request => cases h; exact .aside rfl (aside_call rfl rfl trivial (fun _ h => h))
  | join request => cases h; exact .aside rfl (join_aside _ _)
  | leave => cases h; exact .aside rfl (aside_call rfl rfl trivial (fun _ h => h))
  | refresh => cases h; exact .aside rfl (refresh_aside _ none rfl rfl (fun _ h => h))
  | diagnose command => cases h; exact .aside rfl (diagnose_aside _ _ _)
  | restartHelper => cases h; exact .aside rfl (aside_same rfl rfl rfl)
  | begin i =>
    simp only [step] at h
    split at h
    · cases h
    · cases h
    · rename_i task _ htask
      cases h
      exact .aside rfl (begin_aside htask)
  | settingsLoaded i settings =>
    simp only [step] at h
    split at h
    · cases h
      exact .aside rfl (aside_of_core rfl (fun _ hop => .inl hop) (fun _ h => .inl (List.mem_of_mem_eraseIdx h)))
    · cases h
  | enter i scene =>
    simp only [step] at h
    split at h
    · rename_i op hgate hop
      cases h
      exact .enters i scene op rfl hgate hop rfl
    · cases h
  | cancelWait i =>
    simp only [step] at h
    split at h
    · cases h
    · cases h
      exact .aside rfl (aside_of_core rfl (fun op hop => .inl (List.mem_of_mem_eraseIdx hop)) (fun _ h => .inl h))
  | clientReady =>
    simp only [step] at h
    split at h
    · rename_i call hgate
      cases h
      exact .getsOn call .starting _ hgate (fun _ _ => CallPhase.noConfusion) rfl
    · cases h
  | startFails launched outcome e =>
    simp only [step] at h
    split at h
    · rename_i call hgate hclient
      cases h
      exact .goesOn _ _ hgate (.thrown _ e (.inr (.inr ⟨_, _, rfl⟩))) rfl
    · cases h
  | send id =>
    simp only [step] at h
    split at h
    · rename_i call client hgate
      split at h
      · cases h; exact .getsOn call _ _ hgate (fun _ _ h => by cases h) rfl
      · cases h
    · cases h
  | deliver =>
    simp only [step] at h
    split at h
    · rename_i call client id hgate
      split at h
      · cases h
      · cases h
        refine .goesOn _ _ hgate ?_ rfl
        split
        · rename_i e he
          exact .refused call client id e (checkResponse_error he)
        · exact .answered call client id _
    · cases h
  | stopped =>
    simp only [step] at h
    split at h
    · rename_i stop hgate
      cases h
      exact .goesOn _ _ hgate (.stopped stop rfl) rfl
    · cases h
  | stopFails outcome e =>
    simp only [step] at h
    split at h
    · rename_i stop hgate
      cases h
      exact .goesOn _ _ hgate (.thrown _ e (.inr (.inl ⟨_, rfl⟩))) rfl
    · cases h
  | written =>
    simp only [step] at h
    split at h
    · rename_i copies hgate
      cases h
      exact .goesOn _ _ hgate (.saved copies) rfl
    · rename_i hgate
      cases h
      exact .goesOn _ _ hgate .copied rfl
    · cases h
  | throws e =>
    simp only [step] at h
    split at h
    · rename_i await hgate
      cases h
      exact .goesOn _ _ hgate (.thrown _ e (.inl rfl)) rfl
    · cases h
  | handle answers | helperPoll refresh | processExit generation =>
    simp only [step] at h
    split at h
    · cases h; exact .aside rfl (aside_same rfl rfl rfl)
    · cases h
  | processEnded i now =>
    simp only [step] at h
    split at h
    · cases h
    · cases h; exact .aside rfl (aside_same rfl rfl rfl)
  | report i =>
    simp only [step] at h
    split at h
    · cases h
    · cases h; exact .aside rfl (onHelperProcessExited_aside _ _ _)
  | push sequence event => cases h; exact .aside rfl (push_aside _ _ _)
  | gameOutput sessionId text => cases h; exact .aside rfl (onGameOutput_aside _ _ _ _ _)
  | launchEvent sessionId state => cases h; exact .aside rfl (onLaunchEvent_aside _ _ _ _)
  | pollTick =>
    simp only [step, Option.map_eq_some_iff] at h
    obtain ⟨c, hc, rfl⟩ := h
    exact .aside rfl (pollTick_aside hc)
  | restartStopped outcome =>
    simp only [step] at h
    split at h
    · cases h
      refine .aside rfl ?_
      show Aside _ _ (if outcome = .completed then _ else _)
      split
      · exact restartStopped_aside _ _
      · exact aside_same rfl rfl rfl
    · cases h
  | commandFailed i =>
    simp only [step] at h
    split at h
    · cases h
    · cases h; exact .aside rfl (commandFailed_aside host i _ _)

end Sys

end Terracotta
