import Terracotta.Effects
/-!
# The crash window

`OnProcessEndedAsync` grants one automatic restart in ten seconds: it counts the unexpected exits since
`_crashWindowStart`.  `StopCoreAsync(intentional: true)` clears both the count and the start, and the recovery that a
granted restart queues runs it before it opens the room again.  So the second exit is refused exactly when no such stop
ran to its end since the first.
-/
namespace Terracotta

open TerracottaController

namespace HelperProcessManager

def counters (m : HelperProcessManager) : Nat × Nat := (m.crashCount, m.crashWindowStart)

theorem stopCore_counters (m : HelperProcessManager) (outcome : StopOutcome) :
    (m.stopCore outcome).counters = if outcome = .completed then (0, 0) else m.counters := by
  cases outcome <;> rfl

theorem ensureStarted_counters (m : HelperProcessManager) : m.ensureStarted.counters = m.counters := by
  unfold ensureStarted
  split <;> rfl

theorem startFailed_counters (m : HelperProcessManager) (launched : Bool) (outcome : StopOutcome) :
    (m.startFailed launched outcome).counters = if outcome = .completed then (0, 0) else m.counters := by
  rw [startFailed, stopCore_counters]
  cases launched <;> rfl

theorem countCrash_counters (m : HelperProcessManager) (now : Nat) :
    (m.countCrash now).counters =
      if crashWindow < now - m.crashWindowStart then (1, now) else (m.crashCount + 1, m.crashWindowStart) := by
  unfold countCrash
  by_cases h : crashWindow < now - m.crashWindowStart
  · rw [if_pos h, if_pos h]; rfl
  · rw [if_neg h, if_neg h]; rfl

theorem countCrash_reports (m : HelperProcessManager) (now : Nat) : (m.countCrash now).reports = m.reports := by
  unfold countCrash
  split <;> rfl

theorem onProcessEnded_unexpected {m : HelperProcessManager} (now : Nat) (h : m.intentionalStop = false) :
    (m.onProcessEnded m.generation now).counters = (m.countCrash now).counters ∧
      (m.onProcessEnded m.generation now).reports =
        m.reports ++ [decide ((m.countCrash now).counters.1 ≤ 1)] := by
  have hcounters : ({ m with client := none }.countCrash now).counters = (m.countCrash now).counters := by
    rw [countCrash_counters, countCrash_counters]
  unfold onProcessEnded
  rw [if_neg (not_not_intro rfl)]
  simp only
  rw [if_neg (by rw [h]; exact Bool.false_ne_true), ← hcounters]
  exact ⟨rfl, congrArg (· ++ _) (countCrash_reports _ now)⟩

end HelperProcessManager

open HelperProcessManager

def Label.stopsCore : Label → Bool
  | .stopped | .stopFails .completed _ | .startFails _ .completed _ | .restartStopped .completed => true
  | _ => false

def Op.automatic : Op → Bool
  | .refresh _ | .recover _ => true
  | _ => false

namespace Sys

/-- The step in which an unexpected exit of the current Helper is counted and reported. -/
def UnexpectedExit (s : Sys) : Label → Prop
  | .processEnded i _ => s.manager.ended[i]? = some s.manager.generation ∧ s.manager.intentionalStop = false
  | _ => False

/-! ## The counters -/

/-- **Only an exit counts, and only a stop that ran to its end clears the count.** -/
theorem step_counters {host : Host} {s t : Sys} {l : Label} (hno : ¬ UnexpectedExit s l) (h : step host s l = some t) :
    t.manager.counters = if l.stopsCore then (0, 0) else s.manager.counters := by
  cases l with
  | create request | leave | restartHelper | join request | refresh | diagnose command | push sequence event
  | gameOutput sessionId text | launchEvent sessionId state => cases h; rfl
  | begin i | settingsLoaded i settings | enter i scene | cancelWait i | written | throws e | helperPoll refresh
  | handle answers | processExit generation | report i | commandFailed i | stopped =>
    simp only [step] at h
    split at h <;> first | (cases h; rfl) | cases h
  | clientReady =>
    simp only [step] at h
    split at h
    · cases h
      show counters s.ensureStarted.1.manager = s.manager.counters
      unfold ensureStarted
      split
      · rfl
      · exact ensureStarted_counters _
    · cases h
  | startFails launched outcome e =>
    simp only [step] at h
    split at h
    · cases h
      exact (startFailed_counters s.manager launched outcome).trans (by cases outcome <;> rfl)
    · cases h
  | stopFails outcome e =>
    simp only [step] at h
    split at h
    · cases h
      exact (stopCore_counters s.manager outcome).trans (by cases outcome <;> rfl)
    · cases h
  | restartStopped outcome =>
    simp only [step] at h
    split at h
    · cases h
      exact (stopCore_counters s.manager outcome).trans (by cases outcome <;> rfl)
    · cases h
  | send id | deliver =>
    simp only [step] at h
    split at h
    · split at h <;> first | (cases h; rfl) | cases h
    · cases h
  | processEnded i now =>
    simp only [step] at h
    split at h
    · cases h
    · rename_i generation hended
      cases h
      show counters { s.manager.onProcessEnded generation now with ended := _ } = s.manager.counters
      unfold onProcessEnded
      split
      · rfl
      · rename_i hgeneration
        simp only
        split
        · rfl
        · rename_i hintentional
          refine absurd ⟨?_, by simpa using hintentional⟩ hno
          rw [hended, not_not.1 hgeneration]
  | pollTick =>
    simp only [step, Option.map_eq_some_iff] at h
    obtain ⟨c, -, rfl⟩ := h
    rfl

theorem run_counters {host : Host} {s u : Sys} : ∀ {ls : List Label},
    Run.Along (step host) (fun s l => ¬ UnexpectedExit s l) s ls → Run.run (step host) s ls = some u →
      u.manager.counters = if ls.any Label.stopsCore then (0, 0) else s.manager.counters
  | [], _, h => by
    simp only [Run.run, Option.some.injEq] at h
    rw [h]; rfl
  | l :: ls, ha, h => by
    obtain ⟨t, ht, hu⟩ := Run.run_cons h
    obtain ⟨hno, hrest⟩ := Run.along_cons ha ht
    rw [run_counters hrest hu, step_counters hno ht, List.any_cons]
    cases l.stopsCore <;> simp

theorem step_exit {host : Host} {s t : Sys} {i now : Nat} (he : UnexpectedExit s (.processEnded i now))
    (h : step host s (.processEnded i now) = some t) :
    t.manager.counters = (s.manager.countCrash now).counters ∧
      t.manager.reports = s.manager.reports ++ [decide ((s.manager.countCrash now).counters.1 ≤ 1)] := by
  obtain ⟨hended, hintentional⟩ := he
  simp only [step, hended] at h
  cases h
  exact onProcessEnded_unexpected now hintentional

def Clear (m : HelperProcessManager) : Prop := m.counters.1 = 0 → m.counters.2 = 0

theorem step_clear {host : Host} {s t : Sys} {l : Label} (hs : Clear s.manager) (h : step host s l = some t) :
    Clear t.manager := by
  unfold Clear
  by_cases he : UnexpectedExit s l
  · cases l with
    | processEnded i now =>
      rw [(step_exit he h).1, countCrash_counters]
      intro hzero
      split at hzero <;> cases hzero
    | _ => cases he
  · rw [step_counters he h]
    split
    · exact fun _ => rfl
    · exact hs

theorem counters_of_granted {host : Host} {s t : Sys} {i now : Nat} (hs : Clear s.manager)
    (he : UnexpectedExit s (.processEnded i now)) (h : step host s (.processEnded i now) = some t)
    (hgranted : t.manager.reports = s.manager.reports ++ [true]) (hclock : crashWindow < now) :
    t.manager.counters = (1, now) := by
  obtain ⟨hcounters, hreports⟩ := step_exit he h
  rw [hgranted] at hreports
  have hone : (s.manager.countCrash now).counters.1 ≤ 1 := by simpa using hreports
  rw [hcounters]
  rw [countCrash_counters] at hone ⊢
  by_cases hroll : crashWindow < now - s.manager.crashWindowStart
  · rw [if_pos hroll]
  · -- the count was 0, so the window start was the minimal time, and the clock is past it
    rw [if_neg hroll] at hone
    have hzero : s.manager.crashCount = 0 := by simpa using hone
    have hstart : s.manager.crashWindowStart = 0 := hs hzero
    omega

/-! ## A controller that stays faulted -/

/-- Nothing of the user's runs: what enters is a refresh or a recovery, no leave holds the gate, and no push event resets
the controller. -/
def Unattended (s : Sys) (l : Label) : Prop :=
  ¬ Resets l ∧ (∀ i scene op, l = .enter i scene → s.controller.waiting[i]? = some op → op.automatic = true) ∧
    ∀ await, s.controller.gate = some await → await.leaves = false

theorem resume_faulted (host : Host) (handler : Handler) {piece : TerracottaController × Outcome}
    (h : piece.1.stateMachine = .faulted) :
    (TerracottaController.resume host handler piece).stateMachine = .faulted := by
  obtain ⟨c, await | _ | e⟩ := piece
  · exact h
  · cases handler <;> exact h
  · cases handler with
    | faults | diagnose command | recover =>
      simp only [TerracottaController.resume, caught]
      split
      · exact h
      · rw [fault, publishFault_eq]
    | refresh poll =>
      simp only [TerracottaController.resume, caught]
      split <;> exact h

theorem not_connected_of_faulted {c c' : TerracottaController} (hc : c.stateMachine = .faulted)
    (h : c.transitionTo .connected = .ok c') : False := by
  have hcan := (transitionTo_ok h).2
  rw [hc] at hcan
  cases hcan

theorem answered_faulted (host : Host) {c : TerracottaController} (hc : c.stateMachine = .faulted)
    (response : Envelope) : ∀ call, (c.answered host call response).1.stateMachine = .faulted
  | .create request sessionId lanAddress => by
    simp only [answered]
    split
    · exact hc
    · unfold createConnected
      split
      · exact hc
      · rename_i d hd
        exact (not_connected_of_faulted hc hd).elim
  | .join request code => by
    simp only [answered]
    split
    · exact hc
    · unfold joinConnected
      split
      · exact hc
      · rename_i d hd
        exact (not_connected_of_faulted hc hd).elim
  | .leave => hc
  | .refresh poll => by
    simp only [answered]
    split
    · exact hc
    · unfold refreshAnswered
      split
      · exact hc
      split
      · simp only
        split
        · rw [stopStatusPolling_stateMachine]; exact hc
        · rename_i d hd
          rw [(transitionTo_ok hd).1]
          rfl
      · exact hc
  | .diagnose previous command => by
    have hne : ¬ (c.stateMachine = .diagnosing ∧ previous ≠ .diagnosing) := fun h => by rw [hc] at h; cases h.1
    simp only [answered]
    split
    · exact hc
    · rw [diagnoseAnswered, if_neg hne]
      exact hc
  | .recover request => by
    simp only [answered]
    split
    · exact hc
    · have hne : c.stateMachine ≠ .connected := fun h => by rw [hc] at h; cases h
      rw [recoverConnected, if_pos hne]
      split
      · exact hc
      · rename_i d hd
        exact (not_connected_of_faulted hc hd).elim

theorem recoverStopped_faulted (intent : RecoveryIntent) {c : TerracottaController} (hc : c.stateMachine = .faulted) :
    (c.recoverStopped intent).1.stateMachine = .faulted := by
  unfold recoverStopped
  split
  · split
    · split <;> exact hc
    · exact hc
  · split
    · split <;> exact hc
    · exact hc

/-- **One step of a run without the user leaves a faulted controller faulted.** -/
theorem step_faulted {host : Host} {s t : Sys} {l : Label} (hs : s.controller.stateMachine = .faulted)
    (hl : Unattended s l) (h : step host s l = some t) : t.controller.stateMachine = .faulted := by
  obtain ⟨hreset, henter, hleave⟩ := hl
  cases step_turns h with
  | aside _ ha => exact ha.faulted hreset hs
  | enters i scene op hl _ hop hc =>
    have hauto := henter i scene op hl hop
    rw [hc]
    cases op with
    | refresh poll => exact hs
    | recover intent => exact hs
    | _ => cases hauto
  | getsOn call p q _ _ hc => rw [hc]; exact hs
  | goesOn await piece hgate hpiece hc =>
    rw [hc]
    refine resume_faulted host _ ?_
    cases hpiece with
    | thrown _ e _ => exact hs
    | refused _ _ _ e _ => exact hs
    | answered call client id response => exact answered_faulted host hs response call
    | stopped stop _ =>
      cases stop with
      | leaveWaiting => exact hs
      | leaveRoom => exact absurd (hleave _ hgate) (fun h => by cases h)
      | recover intent => exact recoverStopped_faulted intent hs
    | saved copies => exact hs
    | copied => exact hs

/-- The controller gives up, and stays so until the user does something. -/
structure GivesUp (host : Host) (s t : Sys) : Prop where
  machine : t.controller.stateMachine = .faulted
  snapshot : t.controller.snapshot.state = .faulted
  queued : t.controller.queued = s.controller.queued
  stays : ∀ later u, Run.run (step host) t later = some u → Run.Along (step host) Unattended t later →
    u.controller.stateMachine = .faulted

theorem report_givesUp {host : Host} {s t : Sys} {k : Nat} (hreport : s.manager.reports[k]? = some false)
    (h : step host s (.report k) = some t)
    (hstate : ¬ (s.controller.snapshot.state = .idle ∨ s.controller.snapshot.state = .leaving)) : GivesUp host s t := by
  simp only [step, hreport] at h
  cases h
  have hfault : ∃ code message, s.controller.onHelperProcessExited false =
      (s.controller.interrupted false).publishFault code message := by
    unfold onHelperProcessExited
    rw [if_neg hstate]
    exact ⟨_, _, rfl⟩
  obtain ⟨code, message, hfault⟩ := hfault
  obtain ⟨-, -, -, -, -, -, hqueued⟩ := interrupted_fields false s.controller
  have hmachine : (s.controller.onHelperProcessExited false).stateMachine = .faulted := by
    rw [hfault, publishFault_eq]
  refine ⟨hmachine, ?_, ?_, fun later u hrun hlater => ?_⟩
  · show (s.controller.onHelperProcessExited false).snapshot.state = _
    rw [hfault, publishFault_eq]
  · show (s.controller.onHelperProcessExited false).queued = _
    rw [hfault, publishFault_eq]
    exact hqueued
  · exact Run.invariant (fun s => s.controller.stateMachine = .faulted) (fun s l t hs hl h => step_faulted hs hl h)
      hmachine hlater hrun

end Sys

open Sys in
/-- **The second exit in ten seconds**: it is granted a restart exactly when an intentional stop ran to its end since the
first, and the controller gives up when it hears of an exit without one, unless its room is already left. -/
theorem second_exit_granted_iff_stopped (host : Host) (before between : List Label) (i₁ now₁ i₂ now₂ : Nat)
    (s₁ t₁ s₂ t₂ : Sys) (hclock : crashWindow < now₁) (hwithin : now₂ ≤ now₁ + crashWindow)
    (hbefore : Run.run (step host) init before = some s₁)
    (hexit₁ : UnexpectedExit s₁ (.processEnded i₁ now₁)) (hstep₁ : step host s₁ (.processEnded i₁ now₁) = some t₁)
    (hgranted : t₁.manager.reports = s₁.manager.reports ++ [true])
    (hbetween : Run.run (step host) t₁ between = some s₂)
    (hnext : Run.Along (step host) (fun s l => ¬ UnexpectedExit s l) t₁ between)
    (hexit₂ : UnexpectedExit s₂ (.processEnded i₂ now₂)) (hstep₂ : step host s₂ (.processEnded i₂ now₂) = some t₂) :
    t₂.manager.reports = s₂.manager.reports ++ [between.any Label.stopsCore] ∧
      ∀ later s₃ k t₃, Run.run (step host) t₂ later = some s₃ → s₃.manager.reports[k]? = some false →
        ¬ (s₃.controller.snapshot.state = .idle ∨ s₃.controller.snapshot.state = .leaving) →
        step host s₃ (.report k) = some t₃ → GivesUp host s₃ t₃ := by
  refine ⟨?_, fun later s₃ k t₃ _ hreport hstate h => report_givesUp hreport h hstate⟩
  have hclear : Clear s₁.manager :=
    Run.invariant_all (fun s => Clear s.manager) (fun s l t hs h => step_clear hs h) (fun _ => rfl) hbefore
  have hcounters := run_counters hnext hbetween
  rw [counters_of_granted hclear hexit₁ hstep₁ hgranted hclock] at hcounters
  rw [(step_exit hexit₂ hstep₂).2, countCrash_counters]
  cases hstops : between.any Label.stopsCore with
  | true =>
    -- a stop cleared the count: whether the window is new or not, this is its first exit
    rw [hstops, if_pos rfl] at hcounters
    obtain ⟨hcount, -⟩ := Prod.mk.inj hcounters
    split <;> simp [hcount]
  | false =>
    rw [hstops, if_neg Bool.false_ne_true] at hcounters
    obtain ⟨hcount, hstart⟩ := Prod.mk.inj hcounters
    rw [if_neg (by omega), hcount]
    rfl

/-- The clock of the runs below reads 20 s, then 21 s after the minimal time. -/
def firstExit : Label := .processEnded 0 200000000

def secondExit : Label := .processEnded 0 210000000

/-- A room is created, and its poll loop has a refresh at the gateway when the Helper ends. -/
def pollThenCrash : List Label := createRoom ++ [.pollTick, .enter 0 sampleScene, .processExit 1]

def relaunchThenCrash : List Label := [.report 0, .clientReady, .processExit 2]

def Sys.decideUnexpectedExit (s : Sys) : Label.Decider s.UnexpectedExit where
  processEnded _ _ := inferInstanceAs (Decidable (_ ∧ _))

instance (s : Sys) (l : Label) : Decidable (s.UnexpectedExit l) := s.decideUnexpectedExit.at l

open Sys in
theorem relaunch_of_poll_is_refused :
    ∃ s₁ t₁ s₂ t₂ t₃, Run.run (step sampleHost) init pollThenCrash = some s₁ ∧
      step sampleHost s₁ firstExit = some t₁ ∧ t₁.manager.reports = s₁.manager.reports ++ [true] ∧
      Run.run (step sampleHost) t₁ relaunchThenCrash = some s₂ ∧ step sampleHost s₂ secondExit = some t₂ ∧
      t₂.manager.reports = s₂.manager.reports ++ [false] ∧
      step sampleHost t₂ (.report 0) = some t₃ ∧ GivesUp sampleHost t₂ t₃ := by
  have hall : ∀ s₁ ∈ Run.run (step sampleHost) init pollThenCrash, UnexpectedExit s₁ firstExit ∧
      (step sampleHost s₁ firstExit).isSome = true ∧ ∀ t₁ ∈ step sampleHost s₁ firstExit,
        t₁.manager.reports = s₁.manager.reports ++ [true] ∧
        (Run.run (step sampleHost) t₁ relaunchThenCrash).isSome = true ∧
        Run.Along (step sampleHost) (fun s l => ¬ UnexpectedExit s l) t₁ relaunchThenCrash ∧
        ∀ s₂ ∈ Run.run (step sampleHost) t₁ relaunchThenCrash, UnexpectedExit s₂ secondExit ∧
          (step sampleHost s₂ secondExit).isSome = true ∧ ∀ t₂ ∈ step sampleHost s₂ secondExit,
            t₂.manager.reports[0]? = some false ∧ (step sampleHost t₂ (.report 0)).isSome = true ∧
            ¬ (t₂.controller.snapshot.state = .idle ∨ t₂.controller.snapshot.state = .leaving) := by
    decide +kernel
  cases hs₁ : Run.run (step sampleHost) init pollThenCrash with
  | none => exact absurd hs₁ (by decide +kernel)
  | some s₁ =>
    obtain ⟨hexit₁, hsome₁, h₁⟩ := hall s₁ hs₁
    obtain ⟨t₁, ht₁⟩ := Option.isSome_iff_exists.1 hsome₁
    obtain ⟨hgranted, hsome, hnext, h⟩ := h₁ t₁ ht₁
    obtain ⟨s₂, hs₂⟩ := Option.isSome_iff_exists.1 hsome
    obtain ⟨hexit₂, hsome₂, h₂⟩ := h s₂ hs₂
    obtain ⟨t₂, ht₂⟩ := Option.isSome_iff_exists.1 hsome₂
    obtain ⟨hreport, hsome₃, hstate⟩ := h₂ t₂ ht₂
    obtain ⟨t₃, ht₃⟩ := Option.isSome_iff_exists.1 hsome₃
    have hfinal := second_exit_granted_iff_stopped sampleHost pollThenCrash relaunchThenCrash 0 200000000 0 210000000
      s₁ t₁ s₂ t₂ (by decide) (by decide) hs₁ hexit₁ ht₁ hgranted hs₂ hnext hexit₂ ht₂
    exact ⟨s₁, t₁, s₂, t₂, t₃, rfl, ht₁, hgranted, hs₂, ht₂, hfinal.1, ht₃, hfinal.2 [] t₂ 0 t₃ rfl hreport hstate ht₃⟩

/-- The Helper of a room ends; the report is heard, the recovery opens the room again, and the new Helper ends too. -/
def recoverThenCrash : List Label :=
  [.report 0, .begin 1, .enter 0 sampleScene, .stopped, .clientReady, .send "a", .handle willingBackend, .deliver,
    .processExit 2]

open Sys in
/-- **Two exits within a second, two restarts**: the recovery's own stop cleared the count, and the controller queues a
second recovery. -/
theorem crash_after_recovery_is_granted_again :
    ∃ s₁ t₁ s₂ t₂ t₃, Run.run (step sampleHost) init (createRoom ++ [.processExit 1]) = some s₁ ∧
      UnexpectedExit s₁ firstExit ∧ step sampleHost s₁ firstExit = some t₁ ∧
      t₁.manager.reports = s₁.manager.reports ++ [true] ∧
      Run.run (step sampleHost) t₁ recoverThenCrash = some s₂ ∧
      Run.Along (step sampleHost) (fun s l => ¬ UnexpectedExit s l) t₁ recoverThenCrash ∧
      UnexpectedExit s₂ secondExit ∧ step sampleHost s₂ secondExit = some t₂ ∧
      t₂.manager.reports ≠ s₂.manager.reports ++ [false] ∧ step sampleHost t₂ (.report 0) = some t₃ ∧
      t₃.controller.stateMachine = .reconnecting ∧ .recover ∈ t₃.controller.queued := by
  have hall : ∀ s₁ ∈ Run.run (step sampleHost) init (createRoom ++ [.processExit 1]), UnexpectedExit s₁ firstExit ∧
      (step sampleHost s₁ firstExit).isSome = true ∧ ∀ t₁ ∈ step sampleHost s₁ firstExit,
        t₁.manager.reports = s₁.manager.reports ++ [true] ∧
        (Run.run (step sampleHost) t₁ recoverThenCrash).isSome = true ∧
        Run.Along (step sampleHost) (fun s l => ¬ UnexpectedExit s l) t₁ recoverThenCrash ∧
        ∀ s₂ ∈ Run.run (step sampleHost) t₁ recoverThenCrash, UnexpectedExit s₂ secondExit ∧
          (step sampleHost s₂ secondExit).isSome = true ∧ ∀ t₂ ∈ step sampleHost s₂ secondExit,
            t₂.manager.reports ≠ s₂.manager.reports ++ [false] ∧
            (step sampleHost t₂ (.report 0)).any (fun t₃ =>
              t₃.controller.stateMachine = .reconnecting ∧ .recover ∈ t₃.controller.queued) = true := by
    decide +kernel
  cases hs₁ : Run.run (step sampleHost) init (createRoom ++ [.processExit 1]) with
  | none => exact absurd hs₁ (by decide +kernel)
  | some s₁ =>
    obtain ⟨hexit₁, hsome₁, h₁⟩ := hall s₁ hs₁
    obtain ⟨t₁, ht₁⟩ := Option.isSome_iff_exists.1 hsome₁
    obtain ⟨hgranted, hsome, hnext, h⟩ := h₁ t₁ ht₁
    obtain ⟨s₂, hs₂⟩ := Option.isSome_iff_exists.1 hsome
    obtain ⟨hexit₂, hsome₂, h₂⟩ := h s₂ hs₂
    obtain ⟨t₂, ht₂⟩ := Option.isSome_iff_exists.1 hsome₂
    obtain ⟨hreports, h₃⟩ := h₂ t₂ ht₂
    obtain ⟨t₃, ht₃, hqueued⟩ := (Option.any_eq_true _ _).1 h₃
    exact ⟨s₁, t₁, s₂, t₂, t₃, rfl, hexit₁, ht₁, hgranted, hs₂, hnext, hexit₂, ht₂, hreports, ht₃,
      of_decide_eq_true hqueued⟩

end Terracotta
