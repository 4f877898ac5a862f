import Terracotta.Effects
import Mathlib.Data.List.Perm.Basic
/-!
# Resuming a pending create

While a create waits for a game or a LAN port, `OnGameOutput` and `OnLaunchEvent` queue the work that resumes it (or
leaves, when the game has ended).  They test the state without the gate, so each of them may accept a line before the
work of an earlier one has changed that state.  Where a callback accepts only when that work is done, the gateway's
`CreateAsync` is called at most once, and a room that was opened stays open.
-/
namespace Terracotta

open TerracottaController

def Task.creates : Task → Bool
  | .resumeCreate _ => true
  | _ => false

def Task.leaves : Task → Bool
  | .leave => true
  | _ => false

def Op.creates : Op → Bool
  | .create _ => true
  | _ => false

def Op.leaves : Op → Bool
  | .leave => true
  | _ => false

def Effect.isCreateCalled : Effect → Bool
  | .createCalled => true
  | _ => false

namespace Sys

/-! ## Unfinished work -/

def creates (c : TerracottaController) : Nat := c.queued.countP Task.creates + c.waiting.countP Op.creates

def leaves (c : TerracottaController) : Nat := c.queued.countP Task.leaves + c.waiting.countP Op.leaves

def NoWork (c : TerracottaController) : Prop := creates c = 0 ∧ leaves c = 0

def Fewer (c c' : TerracottaController) : Prop := creates c' ≤ creates c ∧ leaves c' ≤ leaves c

theorem fewer_of_within {c c' : TerracottaController} (h : Within c c') : Fewer c c' := by
  unfold Fewer creates leaves
  rw [h.queued]
  exact ⟨Nat.add_le_add_left h.waiting.countP_le _, Nat.add_le_add_left h.waiting.countP_le _⟩

theorem Fewer.noWork {c c' : TerracottaController} (h : Fewer c c') (hc : NoWork c) : NoWork c' :=
  ⟨Nat.le_zero.1 (hc.1 ▸ h.1), Nat.le_zero.1 (hc.2 ▸ h.2)⟩

theorem countP_eraseIdx {α : Type} (p : α → Bool) {l : List α} {i : Nat} {a : α} (h : l[i]? = some a) :
    l.countP p = (l.eraseIdx i).countP p + if p a then 1 else 0 := by
  obtain ⟨hi, rfl⟩ := List.getElem?_eq_some_iff.1 h
  rw [← (List.getElem_cons_eraseIdx_perm hi).countP_eq p, List.countP_cons]

theorem countP_eraseIdx_le {α : Type} (p : α → Bool) (l : List α) (i : Nat) : (l.eraseIdx i).countP p ≤ l.countP p :=
  (List.eraseIdx_sublist l i).countP_le

theorem creates_erase {c : TerracottaController} {i : Nat} {op : Op} (h : c.waiting[i]? = some op) :
    creates c = creates { c with waiting := c.waiting.eraseIdx i } + if op.creates then 1 else 0 := by
  simp only [creates, countP_eraseIdx Op.creates h]
  omega

theorem leaves_erase {c : TerracottaController} {i : Nat} {op : Op} (h : c.waiting[i]? = some op) :
    leaves c = leaves { c with waiting := c.waiting.eraseIdx i } + if op.leaves then 1 else 0 := by
  simp only [leaves, countP_eraseIdx Op.leaves h]
  omega

theorem not_waiting_of_noWork {c : TerracottaController} {i : Nat} {op : Op} (hc : NoWork c)
    (h : c.waiting[i]? = some op) : ¬ (op.creates = true ∨ op.leaves = true) := by
  rintro (hop | hop)
  · have hpos := creates_erase h
    rw [hc.1, hop, if_pos rfl] at hpos
    omega
  · have hpos := leaves_erase h
    rw [hc.2, hop, if_pos rfl] at hpos
    omega

theorem begin_fewer {c : TerracottaController} {i : Nat} {task : Task} (h : c.queued[i]? = some task) :
    Fewer c ({ c with queued := c.queued.eraseIdx i }.begin task) := by
  have hc := countP_eraseIdx Task.creates h
  have hl := countP_eraseIdx Task.leaves h
  unfold Fewer creates leaves
  cases task with
  | loadSettings => exact ⟨Nat.add_le_add_right (by rw [hc]; exact Nat.le_add_right _ _) _,
      Nat.add_le_add_right (by rw [hl]; exact Nat.le_add_right _ _) _⟩
  | resumeCreate request =>
    simp only [begin, List.countP_append, List.countP_singleton, Op.creates, Op.leaves]
    simp only [Task.creates, Task.leaves] at hc hl
    simp only [if_true, Bool.false_eq_true, if_false] at hc hl ⊢
    omega
  | leave =>
    simp only [begin, List.countP_append, List.countP_singleton, Op.creates, Op.leaves]
    simp only [Task.creates, Task.leaves] at hc hl
    simp only [if_true, Bool.false_eq_true, if_false] at hc hl ⊢
    omega
  | refresh =>
    simp only [begin, refresh]
    split
    · simp only [List.countP_append, List.countP_singleton, Op.creates, Op.leaves]
      simp only [Bool.false_eq_true, if_false]
      omega
    · simp only [resumePoll]
      omega
  | recover =>
    simp only [begin]
    split
    · simp only
      omega
    · simp only [List.countP_append, List.countP_singleton, Op.creates, Op.leaves]
      simp only [Bool.false_eq_true, if_false]
      omega

theorem refresh_fewer (c : TerracottaController) (poll : Option Nat) : Fewer c (c.refresh poll) := by
  unfold refresh
  split
  · simp [Fewer, creates, leaves, Op.creates, Op.leaves]
  · exact ⟨le_rfl, le_rfl⟩

/-! ## The callbacks -/

def ResumesOnOutput (host : Host) (c : TerracottaController) (sessionId text : String) : Prop :=
  (c.stateMachine = .waitingForLan ∧ c.pendingCreate.any (fun pending => pending.gameSessionId = some sessionId)) ∧
    (host.tryResolvePort (some text)).isSome = true

def ResumesOnLaunch (c : TerracottaController) (state : PluginGameSessionState) : Prop :=
  (state = .running ∧ c.stateMachine = .waitingForGame) ∧ c.pendingCreate.isSome = true

/-- `OnLaunchEvent` leaves, when the game of the room has ended. -/
def LeavesOnLaunch (c : TerracottaController) (sessionId : String) (state : PluginGameSessionState) : Prop :=
  c.settings.autoCloseOnGameExit ∧ c.snapshot.gameSessionId = some sessionId ∧
    (state = .exited ∨ state = .crashed ∨ state = .terminated)

theorem onGameOutput_cases (host : Host) (c : TerracottaController) (sessionId text : String) :
    c.onGameOutput host sessionId text = c ∨ ResumesOnOutput host c sessionId text ∧
      ∃ request, c.onGameOutput host sessionId text = c.queueOperation (.resumeCreate request) := by
  unfold onGameOutput
  split
  · exact .inl rfl
  rename_i pending hpending
  split
  · rename_i hwaits
    split
    · exact .inl rfl
    · rename_i port hport
      refine .inr ⟨⟨⟨hwaits.1, ?_⟩, by rw [hport]; rfl⟩, _, rfl⟩
      rw [hpending]
      simpa using hwaits.2
  · exact .inl rfl

theorem onLaunchEvent_cases (c : TerracottaController) (sessionId : String) (state : PluginGameSessionState) :
    c.onLaunchEvent sessionId state = c ∨
      (ResumesOnLaunch c state ∧ ∃ request, c.onLaunchEvent sessionId state = c.queueOperation (.resumeCreate request)) ∨
      LeavesOnLaunch c sessionId state ∧ c.onLaunchEvent sessionId state = c.queueOperation .leave := by
  unfold onLaunchEvent
  split
  · rename_i pending hpending
    refine .inr (.inl ⟨?_, _, rfl⟩)
    split at hpending
    · rename_i hwaits
      exact ⟨hwaits, by rw [hpending]; rfl⟩
    · cases hpending
  · split
    · rename_i hleaves
      exact .inr (.inr ⟨hleaves, rfl⟩)
    · exact .inl rfl

theorem creates_queue (c : TerracottaController) (task : Task) :
    creates (c.queueOperation task) = creates c + if task.creates then 1 else 0 := by
  simp only [creates, queueOperation, List.countP_append, List.countP_singleton]
  omega

theorem leaves_queue (c : TerracottaController) (task : Task) :
    leaves (c.queueOperation task) = leaves c + if task.leaves then 1 else 0 := by
  simp only [leaves, queueOperation, List.countP_append, List.countP_singleton]
  omega

/-! ## The runs -/

/-- A create is pending, and no work of a callback is unfinished. -/
def Pending (s : Sys) : Prop :=
  s.controller.gate = none ∧ s.controller.stateMachine.waits = true ∧ s.controller.pendingCreate.isSome = true ∧
    NoWork s.controller

/-- What happens in the runs looked at: lines and launch events while the create is pending, the work they queued, the
gateway, the Helper and its process.  No push event, no report of an exit and no call of the user. -/
def Delivered (s : Sys) : Label → Prop
  | .gameOutput _ _ | .launchEvent _ _ => s.controller.stateMachine.waits = true
  | .enter i _ => ∀ op ∈ s.controller.waiting[i]?, op.creates = true ∨ op.leaves = true
  | .begin _ | .settingsLoaded _ _ | .cancelWait _ | .clientReady | .startFails _ _ _ | .send _ | .deliver | .stopped
  | .stopFails _ _ | .written | .throws _ | .handle _ | .helperPoll _ | .processExit _ | .processEnded _ _
  | .pollTick => True
  | _ => False

/-- The condition: a callback resumes the create only when no work of an earlier one is unfinished, and leaves only when
no create is; and once the room is open, neither saving the selection nor copying the code fails. -/
def Unhurried (host : Host) (s : Sys) : Label → Prop
  | .gameOutput sessionId text => ResumesOnOutput host s.controller sessionId text → NoWork s.controller
  | .launchEvent sessionId state =>
    (ResumesOnLaunch s.controller state → NoWork s.controller) ∧
      (LeavesOnLaunch s.controller sessionId state → creates s.controller = 0)
  | .throws e | .stopFails _ e | .startFails _ _ e => s.controller.gate.any Await.opened = true → e = .canceled
  | _ => True

/-! ## The phases of a pending create -/

structure Opened (c : TerracottaController) : Prop where
  gate : c.gate.all Await.opened = true
  machine : c.stateMachine = .connected
  work : NoWork c

/-- **Where a pending create can be**, with a bound on the gateway calls made for it. -/
inductive Phase (c : TerracottaController) : Nat → Prop
  | waits (hgate : c.gate = none) (hmachine : c.stateMachine.waits = true) (hcreates : creates c ≤ 1)
      (hleaves : creates c = 0 ∨ leaves c = 0) : Phase c 0
  | creating (request : TerracottaCreateRoomRequest) (sessionId lanAddress : String) (p : CallPhase)
      (hgate : c.gate = some (.calling (.create request sessionId lanAddress) p)) (hmachine : c.stateMachine = .creating)
      (hwork : NoWork c) : Phase c 1
  | opened (h : Opened c) : Phase c 1
  | failed (n : Nat) (hn : n ≤ 1) (hgate : c.gate = none) (hmachine : c.stateMachine.waits = false) (hwork : NoWork c) :
      Phase c n
  | left (hgate : c.gate = none ∨ c.gate = some (.stopping .leaveWaiting)) (hmachine : c.stateMachine.ended = true)
      (hcreates : creates c = 0) : Phase c 0

theorem Phase.le_one {c : TerracottaController} {n : Nat} (h : Phase c n) : n ≤ 1 := by
  cases h <;> first | assumption | decide

theorem Phase.mono {c c' : TerracottaController} {n : Nat} (h : Phase c n) (hg : c'.gate = c.gate)
    (hm : c'.stateMachine = c.stateMachine) (hf : Fewer c c') : Phase c' n := by
  cases h with
  | waits hgate hmachine hcreates hleaves =>
    refine .waits (hg.trans hgate) (hm ▸ hmachine) (hf.1.trans hcreates) ?_
    rcases hleaves with h | h
    · exact .inl (Nat.le_zero.1 (h ▸ hf.1))
    · exact .inr (Nat.le_zero.1 (h ▸ hf.2))
  | creating request sessionId lanAddress p hgate hmachine hwork =>
    exact .creating request sessionId lanAddress p (hg.trans hgate) (hm.trans hmachine) (hf.noWork hwork)
  | opened h => exact .opened ⟨hg ▸ h.gate, hm.trans h.machine, hf.noWork h.work⟩
  | failed _ hn hgate hmachine hwork => exact .failed _ hn (hg.trans hgate) (hm ▸ hmachine) (hf.noWork hwork)
  | left hgate hmachine hcreates => exact .left (hg ▸ hgate) (hm ▸ hmachine) (Nat.le_zero.1 (hcreates ▸ hf.1))

/-! ### Beside the gate -/

theorem beside_cases {host : Host} {s t : Sys} {l : Label} (hb : beside l = true) (hd : Delivered s l)
    (h : step host s l = some t) :
    (∃ sessionId text, l = .gameOutput sessionId text) ∨ (∃ sessionId state, l = .launchEvent sessionId state) ∨
      t.controller.gate = s.controller.gate ∧ t.controller.stateMachine = s.controller.stateMachine ∧
        Fewer s.controller t.controller := by
  have hsame : Fewer s.controller s.controller := ⟨le_rfl, le_rfl⟩
  cases l with
  | gameOutput sessionId text => exact .inl ⟨_, _, rfl⟩
  | launchEvent sessionId state => exact .inr (.inl ⟨_, _, rfl⟩)
  | begin i =>
    simp only [step] at h
    split at h
    · cases h
    · cases h
    · rename_i task _ htask
      cases h
      refine .inr (.inr ⟨?_, ?_, begin_fewer htask⟩)
      · cases task <;> simp only [begin, refresh] <;> split <;> rfl
      · cases task <;> simp only [begin, refresh] <;> split <;> rfl
  | settingsLoaded i settings =>
    simp only [step] at h
    split at h
    · cases h
      exact .inr (.inr ⟨rfl, rfl, Nat.add_le_add_right (countP_eraseIdx_le _ _ _) _,
        Nat.add_le_add_right (countP_eraseIdx_le _ _ _) _⟩)
    · cases h
  | cancelWait i =>
    simp only [step] at h
    split at h
    · cases h
    · cases h
      exact .inr (.inr ⟨rfl, rfl, Nat.add_le_add_left (countP_eraseIdx_le _ _ _) _,
        Nat.add_le_add_left (countP_eraseIdx_le _ _ _) _⟩)
  | handle answers | helperPoll refresh | processExit generation | processEnded i now =>
    simp only [step] at h
    split at h <;> first | (cases h; exact .inr (.inr ⟨rfl, rfl, hsame⟩)) | cases h
  | pollTick =>
    simp only [step, Option.map_eq_some_iff] at h
    obtain ⟨c, hc, rfl⟩ := h
    unfold pollTick at hc
    split at hc
    · simp only at hc
      split at hc
      · cases hc
        exact .inr (.inr ⟨refresh_gate _ _, refresh_stateMachine _ _, refresh_fewer { s.controller with statusPoll := _ } _⟩)
      · cases hc
        exact .inr (.inr ⟨rfl, rfl, hsame⟩)
    · cases hc
  | _ => first | exact False.elim hd | cases hb

theorem Phase.of_waits {c : TerracottaController} {n : Nat} (h : Phase c n) (hw : c.stateMachine.waits = true) :
    n = 0 ∧ c.gate = none ∧ creates c ≤ 1 ∧ (creates c = 0 ∨ leaves c = 0) := by
  cases h with
  | waits hgate hmachine hcreates hleaves => exact ⟨rfl, hgate, hcreates, hleaves⟩
  | creating _ _ _ _ _ hmachine => rw [hmachine] at hw; cases hw
  | opened h => rw [h.machine] at hw; cases hw
  | failed _ _ _ hmachine => rw [hmachine] at hw; cases hw
  | left _ hmachine => rw [TerracottaRoomState.not_waits_of_ended hmachine] at hw; cases hw

theorem queueCreate_phase {c : TerracottaController} (request : TerracottaCreateRoomRequest) (hgate : c.gate = none)
    (hw : c.stateMachine.waits = true) (hwork : NoWork c) : Phase (c.queueOperation (.resumeCreate request)) 0 := by
  refine .waits hgate hw ?_ (.inr ?_)
  · rw [creates_queue, hwork.1]; exact Nat.le_refl 1
  · rw [leaves_queue, hwork.2]; rfl

theorem beside_phase {host : Host} {s t : Sys} {l : Label} {n : Nat} (hs : Phase s.controller n)
    (hb : beside l = true) (hd : Delivered s l) (hu : Unhurried host s l) (h : step host s l = some t) :
    Phase t.controller n := by
  rcases beside_cases hb hd h with ⟨sessionId, text, rfl⟩ | ⟨sessionId, state, rfl⟩ | ⟨hg, hm, hf⟩
  · cases h
    obtain ⟨rfl, hgate, -, -⟩ := hs.of_waits hd
    rcases onGameOutput_cases host s.controller sessionId text with heq | ⟨hresumes, request, heq⟩
    · simp only [heq]; exact hs
    · simp only [heq]; exact queueCreate_phase request hgate hd (hu hresumes)
  · cases h
    obtain ⟨rfl, hgate, hcreates, hleaves⟩ := hs.of_waits hd
    rcases onLaunchEvent_cases s.controller sessionId state with heq | ⟨hresumes, request, heq⟩ | ⟨hl, heq⟩
    · simp only [heq]; exact hs
    · simp only [heq]; exact queueCreate_phase request hgate hd (hu.1 hresumes)
    · simp only [heq]
      have hzero : creates (s.controller.queueOperation .leave) = 0 := by rw [creates_queue, hu.2 hl]; rfl
      exact .waits hgate hd (by rw [hzero]; exact Nat.zero_le 1) (.inl hzero)
  · exact hs.mono hg hm hf

/-! ### Under the gate -/

theorem thrown_machine (host : Host) (c : TerracottaController) (e : Exn) :
    (TerracottaController.resume host .faults (c, .threw e)).gate = none ∧
      ((TerracottaController.resume host .faults (c, .threw e)).stateMachine = .faulted ∨
        e = .canceled ∧ (TerracottaController.resume host .faults (c, .threw e)).stateMachine = c.stateMachine) := by
  refine ⟨rfl, ?_⟩
  simp only [TerracottaController.resume, caught]
  by_cases he : e = .canceled
  · rw [if_pos he]; exact .inr ⟨he, rfl⟩
  · rw [if_neg he, fault, publishFault_eq]; exact .inl rfl

theorem failed_of_thrown (host : Host) {c : TerracottaController} (e : Exn) {n : Nat} (hn : n ≤ 1)
    (hm : e = .canceled → c.stateMachine.waits = false) (hwork : NoWork c) :
    Phase (TerracottaController.resume host .faults (c, .threw e)) n := by
  obtain ⟨hgate, hmachine⟩ := thrown_machine host c e
  refine .failed n hn hgate ?_ ((fewer_of_within (resume_within host .faults (within_of_eq rfl rfl))).noWork hwork)
  rcases hmachine with hmachine | ⟨he, hmachine⟩
  · rw [hmachine]; rfl
  · rw [hmachine]; exact hm he

theorem createEnter_phase (host : Host) (scene : Scene) (request : TerracottaCreateRoomRequest)
    {c : TerracottaController} (hw : c.stateMachine.waits = true) (hwork : NoWork c) :
    ∃ m, Phase (TerracottaController.resume host .faults (c.createEnter host scene request)) m ∧
      ∀ await, (TerracottaController.resume host .faults (c.createEnter host scene request)).gate = some await → m = 1 := by
  have hunfaulted : c.unfaulted = c := by
    unfold unfaulted
    rw [if_neg (fun h => by rw [h] at hw; cases hw)]
  have h := createEnter_enters host scene request c
  rw [hunfaulted] at h
  generalize c.createEnter host scene request = piece at h
  have hsame : ∀ d : TerracottaController, d.queued = c.queued → d.waiting = c.waiting → NoWork d := fun d hq hwt =>
    (fewer_of_within (within_of_eq hq hwt)).noWork hwork
  cases h with
  | refused hclosed =>
    refine absurd ?_ hclosed
    unfold Opens
    revert hw
    cases c.stateMachine <;> simp [TerracottaRoomState.waits]
  | waits _ pending state snapshot hstate _ =>
    have hnone := hsame { c with pendingCreate := some pending, stateMachine := state, snapshot } rfl rfl
    refine ⟨0, .waits rfl ?_ (le_of_eq_of_le hnone.1 (Nat.zero_le 1)) (.inl hnone.1), fun _ hg => by cases hg⟩
    obtain rfl | rfl := hstate <;> rfl
  | stuck _ pending e he =>
    exact ⟨0, failed_of_thrown host e (Nat.zero_le 1) (fun h => absurd h he) (hsame _ rfl rfl), fun _ hg => by cases hg⟩
  | badPort _ message =>
    exact ⟨0, failed_of_thrown host _ (Nat.zero_le 1) (fun h => by cases h) (hsame _ rfl rfl), fun _ hg => by cases hg⟩
  | calls _ snapshot sessionId lanAddress _ =>
    exact ⟨1, .creating request sessionId lanAddress .starting rfl rfl (hsame _ rfl rfl), fun _ _ => rfl⟩

theorem leaveEnter_phase (host : Host) {c : TerracottaController} (hm : c.stateMachine.inRoom = false)
    (hcreates : creates c = 0) : Phase (TerracottaController.resume host .faults c.leaveEnter) 0 ∧
      ∀ call p, (TerracottaController.resume host .faults c.leaveEnter).gate ≠ some (.calling call p) := by
  have hzero : creates (TerracottaController.resume host .faults c.leaveEnter) = 0 :=
    Nat.le_zero.1 (hcreates ▸ (fewer_of_within (resume_within host .faults (enter_within host ⟨[], none⟩ c .leave))).1)
  rw [← forgotten_stateMachine] at hm
  have h := leaveEnter_enters c
  generalize c.leaveEnter = piece at h hzero
  cases h with
  | idle h =>
    refine ⟨.left (.inl rfl) ?_ hzero, fun _ _ h => by cases h⟩
    show c.forgotten.stateMachine.ended = true
    rw [h]; rfl
  | stops h => exact ⟨.left (.inr rfl) rfl hzero, fun _ _ h => by cases h⟩
  | calls h => rw [hm] at h; cases h
  | stuck h e he => rw [h] at hm; cases hm

theorem createAnswered_phase (host : Host) {c : TerracottaController} (request : TerracottaCreateRoomRequest)
    (sessionId lanAddress : String) (response : Envelope) (hm : c.stateMachine = .creating) (hwork : NoWork c) :
    Phase (TerracottaController.resume host .faults
      (c.answered host (.create request sessionId lanAddress) response)) 1 := by
  have hnone : NoWork (TerracottaController.resume host .faults
      (c.answered host (.create request sessionId lanAddress) response)) :=
    (fewer_of_within (resume_within host .faults (answered_within host c response _))).noWork hwork
  simp only [answered] at hnone ⊢
  split at hnone
  · rename_i e he
    exact failed_of_thrown host e le_rfl (fun _ => by rw [hm]; rfl) hwork
  · rw [createConnected, transitionTo_of_can (by rw [hm]; rfl)] at hnone ⊢
    exact .opened ⟨rfl, by simp [TerracottaController.resume, selectSession, publish], hnone⟩

theorem opened_copy (host : Host) {c : TerracottaController} (hc : Opened c) (copies : Copies) :
    Opened (TerracottaController.resume host .faults (c.copy host copies)) := by
  have hany : ∀ wanted : Bool,
      Opened (TerracottaController.resume host .faults (c, if wanted then .wait .copying else .done)) := by
    intro wanted
    cases wanted
    · exact ⟨rfl, hc.machine, hc.work⟩
    · exact ⟨rfl, hc.machine, hc.work⟩
  exact hany _

/-- **One step leaves an open room open.** -/
theorem step_opened {host : Host} {s t : Sys} {l : Label} (hs : Opened s.controller) (hd : Delivered s l)
    (hu : Unhurried host s l) (h : step host s l = some t) : Opened t.controller := by
  have hawait : ∀ await, s.controller.gate = some await → await.opened = true := fun await hgate => by
    have hg := hs.gate
    rw [hgate] at hg
    exact hg
  cases step_turns h with
  | aside hb _ =>
    have hnot : s.controller.stateMachine.waits ≠ true := by rw [hs.machine]; exact Bool.false_ne_true
    rcases beside_cases hb hd h with ⟨_, _, rfl⟩ | ⟨_, _, rfl⟩ | ⟨hg, hm, hf⟩
    · exact absurd hd hnot
    · exact absurd hd hnot
    · exact ⟨hg ▸ hs.gate, hm.trans hs.machine, hf.noWork hs.work⟩
  | enters i scene op hl _ hop _ =>
    subst hl
    exact absurd (hd op hop) (not_waiting_of_noWork hs.work hop)
  | getsOn call p q hgate _ _ => cases hawait _ hgate
  | goesOn await piece hgate hpiece hc =>
    have hopened := hawait await hgate
    rw [hc]
    cases hpiece with
    | thrown _ e he =>
      have hcancel : e = .canceled := by
        have hany : s.controller.gate.any Await.opened = true := by rw [hgate]; exact hopened
        rcases he with rfl | ⟨o, rfl⟩ | ⟨b, o, rfl⟩ <;> exact hu hany
      subst hcancel
      have hhandler : Handler.ofAwait await = .faults := by
        cases await <;> first | rfl | cases hopened
      rw [hhandler]
      exact ⟨rfl, hs.machine, hs.work⟩
    | refused call client id e _ => cases hopened
    | answered call client id response => cases hopened
    | stopped stop _ => cases hopened
    | saved copies => exact opened_copy host hs copies
    | copied => exact ⟨rfl, hs.machine, hs.work⟩

theorem enter_phase (host : Host) (scene : Scene) {c : TerracottaController} {i n : Nat} {op : Op} (hc : Phase c n)
    (hgate : c.gate = none) (hop : c.waiting[i]? = some op) (hwork : op.creates = true ∨ op.leaves = true) :
    ∃ m, n ≤ m ∧ Phase (TerracottaController.resume host (.ofOp op)
        ({ c with waiting := c.waiting.eraseIdx i }.enter host scene op)) m ∧
      (∀ request sessionId lanAddress p, (TerracottaController.resume host (.ofOp op)
        ({ c with waiting := c.waiting.eraseIdx i }.enter host scene op)).gate =
          some (.calling (.create request sessionId lanAddress) p) → n < m) := by
  have hce := creates_erase hop
  have hle := leaves_erase hop
  cases hc with
  | waits _ hmachine hcreates hleaves =>
    cases op with
    | create request =>
      -- the only create there is, so no leave is
      rw [Op.creates, if_pos rfl] at hce
      have hnone : NoWork { c with waiting := c.waiting.eraseIdx i } := by
        constructor <;> omega
      obtain ⟨m, hm, hone⟩ := createEnter_phase host scene request (by exact hmachine) hnone
      refine ⟨m, Nat.zero_le m, hm, fun _ _ _ _ hg => ?_⟩
      rw [hone _ hg]
      exact Nat.zero_lt_one
    | leave =>
      rw [Op.leaves, if_pos rfl] at hle
      have hzero : creates { c with waiting := c.waiting.eraseIdx i } = 0 := by omega
      obtain ⟨hp, hno⟩ := leaveEnter_phase host (TerracottaRoomState.not_inRoom_of_waits (by exact hmachine)) hzero
      exact ⟨0, le_rfl, hp, fun _ _ _ _ hg => absurd hg (hno _ _)⟩
    | _ => rcases hwork with h | h <;> cases h
  | creating _ _ _ _ hheld => rw [hgate] at hheld; cases hheld
  | opened ho => exact absurd hwork (not_waiting_of_noWork ho.work hop)
  | failed _ _ _ _ hnone => exact absurd hwork (not_waiting_of_noWork hnone hop)
  | left _ hmachine hcreates =>
    cases op with
    | create request => rw [Op.creates, if_pos rfl] at hce; omega
    | leave =>
      have hzero : creates { c with waiting := c.waiting.eraseIdx i } = 0 := by omega
      obtain ⟨hp, hno⟩ := leaveEnter_phase host (TerracottaRoomState.not_inRoom_of_ended (by exact hmachine)) hzero
      exact ⟨0, le_rfl, hp, fun _ _ _ _ hg => absurd hg (hno _ _)⟩
    | _ => rcases hwork with h | h <;> cases h

theorem goesOn_phase {host : Host} {s : Sys} {l : Label} {n : Nat} {await : Await}
    {piece : TerracottaController × Outcome} (hs : Phase s.controller n) (hgate : s.controller.gate = some await)
    (hpiece : Piece host s l await piece) (hopened : ¬ Opened s.controller) :
    Phase (TerracottaController.resume host (.ofAwait await) piece) n := by
  cases hs with
  | waits hnone => rw [hnone] at hgate; cases hgate
  | creating request sessionId lanAddress p hcall hmachine hwork =>
    cases hcall.symm.trans hgate
    have hfailed : ∀ e, Phase (TerracottaController.resume host .faults (s.controller, .threw e)) 1 := fun e =>
      failed_of_thrown host e le_rfl (fun _ => by rw [hmachine]; rfl) hwork
    cases hpiece with
    | thrown _ e _ => exact hfailed e
    | refused _ _ _ e _ => exact hfailed e
    | answered call client id response =>
      exact createAnswered_phase host request sessionId lanAddress response hmachine hwork
  | opened h => exact absurd h hopened
  | failed _ _ hnone => rw [hnone] at hgate; cases hgate
  | left hleft hmachine hcreates =>
    rcases hleft with hleft | hleft <;> rw [hleft] at hgate <;> cases hgate
    cases hpiece with
    | thrown _ e _ =>
      obtain ⟨hfree, hm⟩ := thrown_machine host s.controller e
      have hwithin : Within s.controller (s.controller, Outcome.threw e).1 := within_of_eq rfl rfl
      have hzero := (fewer_of_within (resume_within host .faults hwithin)).1
      show Phase (TerracottaController.resume host .faults (s.controller, .threw e)) 0
      refine .left (.inl hfree) ?_ (Nat.le_zero.1 (hcreates ▸ hzero))
      rcases hm with hm | ⟨-, hm⟩
      · rw [hm]; rfl
      · rw [hm]; exact hmachine
    | stopped stop _ => exact .left (.inl rfl) hmachine hcreates

/-- **One step moves a pending create through its phases**, and to the gateway call of a create only from the first. -/
theorem step_phase {host : Host} {s t : Sys} {l : Label} {n : Nat} (hs : Phase s.controller n) (hd : Delivered s l)
    (hu : Unhurried host s l) (h : step host s l = some t) :
    ∃ m, n ≤ m ∧ Phase t.controller m ∧ (s.controller.gate = none → ∀ request sessionId lanAddress p,
      t.controller.gate = some (.calling (.create request sessionId lanAddress) p) → n < m) := by
  by_cases hopened : Opened s.controller
  · have ht := step_opened hopened hd hu h
    refine ⟨1, hs.le_one, .opened ht, fun _ request sessionId lanAddress p hg => ?_⟩
    have hgate := ht.gate
    rw [hg] at hgate
    cases hgate
  · have hheld : ∀ await, s.controller.gate = some await → s.controller.gate ≠ none := fun await hgate hnone => by
      rw [hgate] at hnone
      cases hnone
    cases step_turns h with
    | aside hb ha =>
      refine ⟨n, le_rfl, beside_phase hs hb hd hu h, fun hnone _ _ _ _ hg => ?_⟩
      rw [ha.gate, hnone] at hg
      cases hg
    | enters i scene op hl hgate hop hc =>
      subst hl
      obtain ⟨m, hle, hm, hlt⟩ := enter_phase host scene hs hgate hop (hd op hop)
      rw [hc]
      exact ⟨m, hle, hm, fun _ => hlt⟩
    | getsOn call p q hgate _ hc =>
      rw [hc]
      refine ⟨n, le_rfl, ?_, fun hnone => absurd hnone (hheld _ hgate)⟩
      cases hs with
      | waits hnone => rw [hnone] at hgate; cases hgate
      | creating request sessionId lanAddress p' hcall hmachine hwork =>
        cases hcall.symm.trans hgate
        exact .creating request sessionId lanAddress q rfl hmachine hwork
      | opened ho => exact absurd ho hopened
      | failed _ _ hnone => rw [hnone] at hgate; cases hgate
      | left hleft => rcases hleft with hleft | hleft <;> rw [hleft] at hgate <;> cases hgate
    | goesOn await piece hgate hpiece hc =>
      rw [hc]
      exact ⟨n, le_rfl, goesOn_phase hs hgate hpiece hopened, fun hnone => absurd hnone (hheld _ hgate)⟩

def createsCalled (s : Sys) : Nat := s.log.countP Effect.isCreateCalled

theorem step_createsCalled {host : Host} {s t : Sys} {l : Label} {k n : Nat} (hs : Phase s.controller n)
    (hk : s.createsCalled ≤ k + n) (hd : Delivered s l) (hu : Unhurried host s l) (h : step host s l = some t) :
    ∃ m, Phase t.controller m ∧ t.createsCalled ≤ k + m := by
  obtain ⟨m, hle, hm, hlt⟩ := step_phase hs hd hu h
  refine ⟨m, hm, ?_⟩
  rcases step_log h with hlog | ⟨e, hlog, he⟩
  · unfold createsCalled at hk ⊢
    rw [hlog]
    omega
  · unfold createsCalled at hk ⊢
    rw [hlog, List.countP_append, List.countP_singleton]
    cases e with
    | createCalled =>
      obtain ⟨i, scene, request, sessionId, lanAddress, -, hnone, -, hgate⟩ := he
      have hnm := hlt hnone request sessionId lanAddress .starting hgate
      simp only [Effect.isCreateCalled, if_true]
      omega
    | launched | sent request room | answered request room answers response =>
      simp only [Effect.isCreateCalled, Bool.false_eq_true, if_false]
      omega

/-- What the gateway's `CreateAsync` returns, once its response is there. -/
def createReturns (host : Host) (s : Sys) : Option TerracottaRoomSnapshot :=
  match s.controller.gate with
  | some (.calling (.create _ _ _) (.sent _ id)) => do
    let response ← s.helper.responses.find? (fun response => response.id = id)
    let envelope ← (checkResponse host.jsonMessage "room.created" response).toOption
    responseSnapshot envelope
  | _ => none

theorem createReturns_some {host : Host} {s : Sys} {connected : TerracottaRoomSnapshot}
    (h : s.createReturns host = some connected) :
    ∃ request sessionId lanAddress client id response envelope,
      s.controller.gate = some (.calling (.create request sessionId lanAddress) (.sent client id)) ∧
        s.helper.responses.find? (fun response => response.id = id) = some response ∧
        checkResponse host.jsonMessage "room.created" response = .ok envelope ∧
        responseSnapshot envelope = some connected := by
  unfold createReturns at h
  split at h
  · rename_i request sessionId lanAddress client id hgate
    simp only [bind, Option.bind_eq_some_iff] at h
    obtain ⟨response, hfind, envelope, hcheck, hread⟩ := h
    refine ⟨request, sessionId, lanAddress, client, id, response, envelope, hgate, hfind, ?_, hread⟩
    cases hc : checkResponse host.jsonMessage "room.created" response with
    | error e => rw [hc] at hcheck; cases hcheck
    | ok envelope' => rw [hc] at hcheck; cases hcheck; rfl
  · cases h

theorem opened_of_createReturns {host : Host} {s t : Sys} {n : Nat} {connected : TerracottaRoomSnapshot}
    (hs : Phase s.controller n) (hreturns : s.createReturns host = some connected)
    (h : step host s .deliver = some t) : Opened t.controller := by
  obtain ⟨request, sessionId, lanAddress, client, id, response, envelope, hgate, hfind, hcheck, hread⟩ :=
    createReturns_some hreturns
  cases hs with
  | waits hnone => rw [hnone] at hgate; cases hgate
  | creating _ _ _ _ _ hmachine hwork =>
    have hnone : NoWork (TerracottaController.resume host .faults
        (s.controller.answered host (.create request sessionId lanAddress) envelope)) :=
      (fewer_of_within (resume_within host .faults (answered_within host s.controller envelope _))).noWork hwork
    simp only [step, hgate, hfind, Call.request, HelperRequest.responseType, hcheck] at h
    cases h
    show Opened (TerracottaController.resume host .faults _)
    simp only [answered, hread, readPayload] at hnone ⊢
    rw [createConnected, transitionTo_of_can (by rw [hmachine]; rfl)] at hnone ⊢
    exact ⟨rfl, by simp [TerracottaController.resume, selectSession, publish], hnone⟩
  | opened ho =>
    have hg := ho.gate
    rw [hgate] at hg
    cases hg
  | failed _ _ hnone => rw [hnone] at hgate; cases hgate
  | left hleft => rcases hleft with hleft | hleft <;> rw [hleft] at hgate <;> cases hgate

end Sys

open Sys in
/-- **A pending create is resumed at most once, and a room it opened stays open**, in every run in which no callback
queues work before the work of the earlier ones is done. -/
theorem pending_create_opens_once (host : Host) (s₀ u : Sys) (labels : List Label) (hpending : Pending s₀)
    (hdelivered : Run.Along (step host) Delivered s₀ labels) (hunhurried : Run.Along (step host) (Unhurried host) s₀ labels)
    (hrun : Run.run (step host) s₀ labels = some u) :
    u.createsCalled ≤ s₀.createsCalled + 1 ∧
      ∀ before after s connected, labels = before ++ .deliver :: after → Run.run (step host) s₀ before = some s →
        s.createReturns host = some connected → u.controller.stateMachine = .connected := by
  obtain ⟨hgate, hwaits, -, hwork⟩ := hpending
  have hstart : Phase s₀.controller 0 :=
    .waits hgate hwaits (le_of_eq_of_le hwork.1 (Nat.zero_le 1)) (.inl hwork.1)
  have hboth := Run.along_and hdelivered hunhurried
  have hphase : ∀ {ls v}, Run.Along (step host) (fun s l => Delivered s l ∧ Unhurried host s l) s₀ ls →
      Run.run (step host) s₀ ls = some v →
        ∃ n, Phase v.controller n ∧ v.createsCalled ≤ s₀.createsCalled + n := fun halong hrun =>
    Run.invariant (fun s => ∃ n, Phase s.controller n ∧ s.createsCalled ≤ s₀.createsCalled + n)
      (fun s l t hs hok h => by
        obtain ⟨n, hn, hk⟩ := hs
        exact step_createsCalled hn hk hok.1 hok.2 h) ⟨0, hstart, le_rfl⟩ halong hrun
  refine ⟨?_, fun before after s connected hlabels hbefore hreturns => ?_⟩
  · obtain ⟨n, hn, hk⟩ := hphase hboth hrun
    exact hk.trans (Nat.add_le_add_left hn.le_one _)
  · subst hlabels
    obtain ⟨s', hs', hafter⟩ := Run.run_append hrun
    cases hbefore.symm.trans hs'
    obtain ⟨halong, hrest⟩ := Run.along_append hboth hbefore
    obtain ⟨t, ht, hu⟩ := Run.run_cons hafter
    obtain ⟨n, hn, -⟩ := hphase halong hbefore
    have hopened : Opened u.controller :=
      Run.invariant (fun s => Opened s.controller) (fun s l t hs hok h => step_opened hs hok.1 hok.2 h)
        (opened_of_createReturns hn hreturns ht) (Run.along_cons hrest ht).2 hu
    exact hopened.machine

def waitForLan : List Label := [.create {}, .enter 0 sampleScene]

def resumeCreate : List Label := [.begin 1, .enter 0 sampleScene, .clientReady, .send "a", .handle willingBackend]

def oneLine : List Label := .gameOutput "session-1" "Started serving on 25565" :: resumeCreate

/-- The two lines Minecraft logs when a world is opened to LAN. -/
def twoLines : List Label :=
  [.gameOutput "session-1" "Started serving on 25565", .gameOutput "session-1" "Local game hosted on port 25565"] ++
    resumeCreate

namespace Sys

instance (c : TerracottaController) : Decidable (NoWork c) := inferInstanceAs (Decidable (_ ∧ _))

instance (s : Sys) : Decidable (Pending s) := inferInstanceAs (Decidable (_ ∧ _ ∧ _ ∧ _))

def decideDelivered (s : Sys) : Label.Decider (Delivered s) where
  gameOutput _ _ := inferInstanceAs (Decidable (_ = _))
  launchEvent _ _ := inferInstanceAs (Decidable (_ = _))
  enter i _ := inferInstanceAs (Decidable (∀ op ∈ s.controller.waiting[i]?, _))

instance (s : Sys) (l : Label) : Decidable (Delivered s l) := (decideDelivered s).at l

instance (host : Host) (c : TerracottaController) (sessionId text : String) :
    Decidable (ResumesOnOutput host c sessionId text) := inferInstanceAs (Decidable ((_ ∧ _) ∧ _))

instance (c : TerracottaController) (state : PluginGameSessionState) : Decidable (ResumesOnLaunch c state) :=
  inferInstanceAs (Decidable ((_ ∧ _) ∧ _))

instance (c : TerracottaController) (sessionId : String) (state : PluginGameSessionState) :
    Decidable (LeavesOnLaunch c sessionId state) := inferInstanceAs (Decidable (_ ∧ _ ∧ _))

def decideUnhurried (host : Host) (s : Sys) : Label.Decider (Unhurried host s) where
  gameOutput _ _ := inferInstanceAs (Decidable (_ → _))
  launchEvent _ _ := inferInstanceAs (Decidable ((_ → _) ∧ (_ → _)))
  throws _ := inferInstanceAs (Decidable (_ → _))
  stopFails _ _ := inferInstanceAs (Decidable (_ → _))
  startFails _ _ _ := inferInstanceAs (Decidable (_ → _))

instance (host : Host) (s : Sys) (l : Label) : Decidable (Unhurried host s l) := (decideUnhurried host s).at l

end Sys

open Sys in
theorem one_line_opens_once :
    ∃ s₀ u, Run.run (step sampleHost) init waitForLan = some s₀ ∧
      Run.run (step sampleHost) s₀ (oneLine ++ [.deliver, .written]) = some u ∧
      u.createsCalled ≤ s₀.createsCalled + 1 ∧ u.controller.stateMachine = .connected := by
  have hall : ∀ s₀ ∈ Run.run (step sampleHost) init waitForLan, Pending s₀ ∧
      Run.Along (step sampleHost) Delivered s₀ (oneLine ++ [.deliver, .written]) ∧
      Run.Along (step sampleHost) (Unhurried sampleHost) s₀ (oneLine ++ [.deliver, .written]) ∧
      (Run.run (step sampleHost) s₀ (oneLine ++ [.deliver, .written])).isSome = true ∧
      (Run.run (step sampleHost) s₀ oneLine).any (fun s => (s.createReturns sampleHost).isSome) = true := by
    decide +kernel
  cases hs₀ : Run.run (step sampleHost) init waitForLan with
  | none => exact absurd hs₀ (by decide +kernel)
  | some s₀ =>
    obtain ⟨hpending, hdelivered, hunhurried, hrun, hreturns⟩ := hall s₀ hs₀
    obtain ⟨u, hu⟩ := Option.isSome_iff_exists.1 hrun
    obtain ⟨s, hs, hconnected⟩ := (Option.any_eq_true _ _).1 hreturns
    obtain ⟨connected, hconnected⟩ := Option.isSome_iff_exists.1 hconnected
    obtain ⟨honce, hopen⟩ := pending_create_opens_once sampleHost s₀ u _ hpending hdelivered hunhurried hu
    exact ⟨s₀, u, rfl, hu, honce, hopen _ [.written] s connected rfl hs hconnected⟩

open Sys in
/-- **Two lines for one world**: both are accepted, the first create opens the room, and the second is refused and faults
it. -/
theorem second_line_faults_open_room :
    ∃ s₀ s u, Run.run (step sampleHost) init waitForLan = some s₀ ∧ Pending s₀ ∧
      Run.Along (step sampleHost) Delivered s₀ (twoLines ++ [.deliver, .written, .begin 1, .enter 0 sampleScene]) ∧
      Run.run (step sampleHost) s₀ twoLines = some s ∧ (s.createReturns sampleHost).isSome = true ∧
      Run.run (step sampleHost) s [.deliver, .written, .begin 1, .enter 0 sampleScene] = some u ∧
      u.controller.gate = none ∧ NoWork u.controller ∧ u.controller.stateMachine = .faulted := by
  have hall : ∀ s₀ ∈ Run.run (step sampleHost) init waitForLan, Pending s₀ ∧
      Run.Along (step sampleHost) Delivered s₀ (twoLines ++ [.deliver, .written, .begin 1, .enter 0 sampleScene]) ∧
      (Run.run (step sampleHost) s₀ twoLines).isSome = true ∧
      ∀ s ∈ Run.run (step sampleHost) s₀ twoLines, (s.createReturns sampleHost).isSome = true ∧
        (Run.run (step sampleHost) s [.deliver, .written, .begin 1, .enter 0 sampleScene]).any (fun u =>
          u.controller.gate = none ∧ NoWork u.controller ∧ u.controller.stateMachine = .faulted) = true := by
    decide +kernel
  cases hs₀ : Run.run (step sampleHost) init waitForLan with
  | none => exact absurd hs₀ (by decide +kernel)
  | some s₀ =>
    obtain ⟨hpending, hdelivered, hsome, hrun⟩ := hall s₀ hs₀
    obtain ⟨s, hs⟩ := Option.isSome_iff_exists.1 hsome
    obtain ⟨hreturns, hfaults⟩ := hrun s hs
    obtain ⟨u, hu, hend⟩ := (Option.any_eq_true _ _).1 hfaults
    exact ⟨s₀, s, u, rfl, hpending, hdelivered, hs, hreturns, hu, of_decide_eq_true hend⟩

end Terracotta
