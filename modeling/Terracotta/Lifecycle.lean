import Mathlib
import Terracotta.ProcessManager
import Terracotta.Run
/-!
# `HelperProcessManager`, await by await

`EnsureStartedAsync`, `StopAsync` and the exit handlers hold `_gate` one at a time, and every await they hold it over may
end in an exception.  The task of a process runs beside them: it reads `_intentionalStop` when the process has ended, and
then may ask for the gate.  Launches are numbered from zero, and a client is the number of the launch it talks to.
`generation` counts the increments of `_generation`, which keeps their last 32 bits.
-/
namespace Terracotta

/-- The task of one launch; `inside` and `raising` carry the locals `intentional` and `willAutoRestart`. -/
inductive TaskPhase
  | running
  | exited
  | waiting
  | inside (intentional : Bool)
  | raising (willAutoRestart : Bool)
  | finished
  | skipped
deriving DecidableEq, Repr

structure HelperLaunch where
  generation : Nat
  phase : TaskPhase
deriving DecidableEq, Repr

/-- Who holds the gate, by the await it is held over: two of `StartCoreAsync`, six of `StopCoreAsync`, and the one of
`OnProcessEndedAsync`. -/
inductive GateHolder
  | free
  | resolving
  | connecting (n : Nat)
  | requesting
  | disposing
  | joining
  | canceling
  | disposingTask
  | disposingEndpoint
  | handling (n : Nat)
deriving DecidableEq, Repr

structure ProcessLifecycle where
  client : Option Nat
  processTask : Option Nat
  processCancellation : Bool
  endpoint : Bool
  generation : Nat
  intentionalStop : Bool
  crashCount : Nat
  crashWindowStart : Nat
  gate : GateHolder
  launches : List HelperLaunch
  /-- The clients `EnsureStartedAsync` has returned. -/
  handedOut : List Nat
  /-- The launches during which `StopCoreAsync` has set the flag. -/
  stopped : List Nat
  /-- The handlers that have begun to dispose a client, with the client. -/
  disposed : List (Nat × Nat)
  cleared : List (Nat × Nat)
  /-- `HelperProcessExited`, with `willAutoRestart`. -/
  reports : List (Nat × Bool)
deriving DecidableEq, Repr

inductive LifecycleLabel
  | ensure
  | stop
  | proceed
  | timesOut
  | throws
  | launchThrows (issued : Bool)
  | exits (n : Nat)
  | neverRuns (n : Nat)
  | reads (n : Nat)
  | enters (n now : Nat)
  | handled (now : Nat)
  | raises (n : Nat)
deriving DecidableEq, Repr

namespace ProcessLifecycle

def init : ProcessLifecycle := ⟨none, none, false, false, 0, false, 0, 0, .free, [], [], [], [], [], []⟩

def setPhase (m : ProcessLifecycle) (n : Nat) (launch : HelperLaunch) (phase : TaskPhase) : ProcessLifecycle :=
  { m with launches := m.launches.set n { launch with phase } }

/-- The launch of the last process. -/
def current (m : ProcessLifecycle) : Option Nat :=
  match m.launches.length with
  | 0 => none
  | n + 1 => some n

/-! ## `StopCoreAsync(intentional: true)` -/

def stopEnds (m : ProcessLifecycle) : ProcessLifecycle := { m with crashCount := 0, crashWindowStart := 0, gate := .free }

def stopEndpoint (m : ProcessLifecycle) : ProcessLifecycle :=
  let m := { m with processCancellation := false }
  if m.endpoint then { m with gate := .disposingEndpoint } else m.stopEnds

def stopTask (m : ProcessLifecycle) : ProcessLifecycle :=
  match m.processTask with
  | some _ => { m with gate := .joining }
  | none => m.stopEndpoint

def stopCore (m : ProcessLifecycle) : ProcessLifecycle :=
  let m := { m with intentionalStop := true, stopped := m.stopped ++ m.current.toList }
  match m.client with
  | some _ => { m with gate := .requesting }
  | none => m.stopTask

/-! ## `StartCoreAsync` -/

/-- From the endpoint to the first await of the connect loop. -/
def launch (m : ProcessLifecycle) : ProcessLifecycle :=
  { m with
    endpoint := true
    processCancellation := true
    intentionalStop := false
    generation := m.generation + 1
    launches := m.launches ++ [⟨m.generation + 1, .running⟩]
    processTask := some m.launches.length
    gate := .connecting m.launches.length }

/-- The same lines when one of them throws, before the generation is issued or behind it. -/
def launchThrows (m : ProcessLifecycle) (issued : Bool) : ProcessLifecycle :=
  if issued then
    { m with endpoint := true, processCancellation := true, intentionalStop := false, generation := m.generation + 1 }
  else { m with endpoint := true }

/-! ## `OnProcessEndedAsync` -/

def countCrash (m : ProcessLifecycle) (now : Nat) : ProcessLifecycle :=
  let m :=
    if HelperProcessManager.crashWindow < now - m.crashWindowStart then { m with crashWindowStart := now, crashCount := 0 }
    else m
  { m with crashCount := m.crashCount + 1 }

/-- The `finally` of the handler. -/
def release (m : ProcessLifecycle) (n : Nat) (launch : HelperLaunch) (phase : TaskPhase) : ProcessLifecycle :=
  { m.setPhase n launch phase with gate := .free }

/-- The handler from the point where the client is disposed to the release of the gate. -/
def conclude (m : ProcessLifecycle) (n : Nat) (launch : HelperLaunch) (intentional : Bool) (now : Nat) : ProcessLifecycle :=
  let m := { m with client := none, cleared := m.cleared ++ m.client.toList.map (n, ·) }
  if intentional then m.release n launch .finished
  else
    let m := m.countCrash now
    m.release n launch (.raising (decide (m.crashCount ≤ 1)))

/-- The handler of a launch gets the gate. -/
def enter (m : ProcessLifecycle) (n : Nat) (launch : HelperLaunch) (now : Nat) : ProcessLifecycle :=
  if launch.generation % 2 ^ 32 ≠ m.generation % 2 ^ 32 then m.setPhase n launch .finished
  else
    match m.client with
    | some c => { m.setPhase n launch (.inside m.intentionalStop) with
        gate := .handling n
        disposed := m.disposed ++ [(n, c)] }
    | none => m.conclude n launch m.intentionalStop now

/-! ## Steps -/

def step (m : ProcessLifecycle) : LifecycleLabel → Option ProcessLifecycle
  | .ensure =>
    match m.gate, m.client with
    | .free, some c => some { m with handedOut := m.handedOut ++ [c] }
    | .free, none => some { m with gate := .resolving }
    | _, _ => none
  | .stop => if m.gate = .free then some m.stopCore else none
  -- the await returns; an `IOException` or a `HelperProtocolException` of the shutdown request is caught
  | .proceed =>
    match m.gate with
    | .resolving => some m.launch
    | .connecting n => some { m with client := some n, handedOut := m.handedOut ++ [n], gate := .free }
    | .requesting => some { m with gate := .disposing }
    | .disposing => some { m with client := none }.stopTask
    | .joining | .canceling => some { m with gate := .disposingTask }
    | .disposingTask => some { m with processTask := none }.stopEndpoint
    | .disposingEndpoint => some { m with endpoint := false }.stopEnds
    | .free | .handling _ => none
  | .timesOut =>
    match m.gate with
    | .joining => some { m with gate := if m.processCancellation then .canceling else .disposingTask }
    | _ => none
  -- the await ends in an exception nobody catches, which for `EnsureStartedAsync` leads into its `catch`
  | .throws =>
    match m.gate with
    | .resolving | .connecting _ => some m.stopCore
    | .requesting | .disposing | .joining | .canceling | .disposingTask | .disposingEndpoint =>
      some { m with gate := .free }
    | .handling n => do
      let launch ← m.launches[n]?
      some (m.release n launch .finished)
    | .free => none
  | .launchThrows issued => if m.gate = .resolving then some (m.launchThrows issued).stopCore else none
  | .exits n => do
    let launch ← m.launches[n]?
    if launch.phase = .running then some (m.setPhase n launch .exited) else none
  -- the lambda reads `_processCancellation!` before its `try`
  | .neverRuns n => do
    let launch ← m.launches[n]?
    if launch.phase = .running ∧ m.processCancellation = false then some (m.setPhase n launch .skipped) else none
  | .reads n => do
    let launch ← m.launches[n]?
    if launch.phase = .exited then some (m.setPhase n launch (if m.intentionalStop then .skipped else .waiting)) else none
  | .enters n now => do
    let launch ← m.launches[n]?
    if launch.phase = .waiting ∧ m.gate = .free then some (m.enter n launch now) else none
  | .handled now =>
    match m.gate with
    | .handling n => do
      let launch ← m.launches[n]?
      match launch.phase with
      | .inside intentional => some (m.conclude n launch intentional now)
      | _ => none
    | _ => none
  | .raises n => do
    let launch ← m.launches[n]?
    match launch.phase with
    | .raising willAutoRestart =>
      some { m.setPhase n launch .finished with reports := m.reports ++ [(n, willAutoRestart)] }
    | _ => none

/-! ## What a step can do

The books are what the theorems about the manager speak of.  `closing` is the end of `StopCoreAsync`, where no client is
stored any more. -/

structure Books where
  client : Option Nat
  generation : Nat
  intentionalStop : Bool
  launches : List HelperLaunch
  stopped : List Nat
  disposed : List (Nat × Nat)
  cleared : List (Nat × Nat)
  reports : List (Nat × Bool)

def books (m : ProcessLifecycle) : Books :=
  ⟨m.client, m.generation, m.intentionalStop, m.launches, m.stopped, m.disposed, m.cleared, m.reports⟩

def closing : GateHolder → Bool
  | .joining | .canceling | .disposingTask | .disposingEndpoint => true
  | _ => false

/-- Where the gate is once no client is stored. -/
def Closed (m : ProcessLifecycle) : Prop := closing m.gate = true ∨ m.gate = .free

theorem stopEnds_closed (m : ProcessLifecycle) : m.stopEnds.books = m.books ∧ m.stopEnds.Closed := ⟨rfl, .inr rfl⟩

theorem stopEndpoint_closed (m : ProcessLifecycle) : m.stopEndpoint.books = m.books ∧ m.stopEndpoint.Closed := by
  unfold stopEndpoint
  simp only
  split
  · exact ⟨rfl, .inl rfl⟩
  · exact stopEnds_closed { m with processCancellation := false }

theorem stopTask_closed (m : ProcessLifecycle) : m.stopTask.books = m.books ∧ m.stopTask.Closed := by
  unfold stopTask
  split
  · exact ⟨rfl, .inl rfl⟩
  · exact stopEndpoint_closed m

/-- `StopCoreAsync` up to its first await: with a client that is the shutdown request. -/
theorem stopCore_closed (m : ProcessLifecycle) :
    m.stopCore.books = { m.books with intentionalStop := true, stopped := m.stopped ++ m.current.toList } ∧
      (m.client ≠ none ∧ m.stopCore.gate = .requesting ∧ m.stopCore.processCancellation = m.processCancellation ∨
        m.client = none ∧ m.stopCore.Closed) := by
  unfold stopCore
  simp only
  split
  · rename_i c hc
    exact ⟨rfl, .inl ⟨by simp [hc], rfl, rfl⟩⟩
  · rename_i hc
    obtain ⟨hbooks, hclosed⟩ :=
      stopTask_closed { m with intentionalStop := true, stopped := m.stopped ++ m.current.toList }
    exact ⟨hbooks, .inr ⟨hc, hclosed⟩⟩

/-- What the task of a process does outside the gate. -/
def TaskMoves (m : ProcessLifecycle) (old new : TaskPhase) : Prop :=
  old = .running ∧ new = .exited ∨ old = .running ∧ m.processCancellation = false ∧ new = .skipped ∨
    old = .exited ∧ m.intentionalStop = true ∧ new = .skipped ∨ old = .exited ∧ m.intentionalStop = false ∧ new = .waiting

/-- How a handler leaves the gate once the client is gone. -/
def Concludes (intentional : Bool) (phase : TaskPhase) : Prop :=
  intentional = true ∧ phase = .finished ∨ intentional = false ∧ ∃ willAutoRestart, phase = .raising willAutoRestart

/-- **What a step can do.** -/
inductive Moves (m t : ProcessLifecycle) (l : LifecycleLabel) : Prop
  | quiet (hbooks : t.books = m.books)
      (hcancellation : closing m.gate = true ∨ t.processCancellation = m.processCancellation)
      (hgate : m.gate = .free ∧ t.gate = .free ∨ m.client = none ∧ t.gate = .resolving ∨
        m.gate = .requesting ∧ t.gate = .disposing ∨ closing m.gate = true ∧ t.Closed ∨
        l = .throws ∧ (m.gate = .requesting ∨ m.gate = .disposing) ∧ t.gate = .free)
  | launches (hgate : m.gate = .resolving) (ht : t = m.launch)
  | connects (n : Nat) (hgate : m.gate = .connecting n) (hbooks : t.books = { m.books with client := some n })
      (hcancellation : t.processCancellation = m.processCancellation) (hfree : t.gate = .free)
  | stops (generation : Nat) (hissued : m.gate = .resolving ∨ generation = m.generation) (hle : m.generation ≤ generation)
      (hopen : m.gate = .free ∨ m.gate = .resolving ∨ ∃ n, m.gate = .connecting n)
      (hbooks : t.books =
        { m.books with generation, intentionalStop := true, stopped := m.stopped ++ m.current.toList })
      (hgate : m.client ≠ none ∧ t.gate = .requesting ∧ (m.gate = .free → t.processCancellation = m.processCancellation) ∨
        m.client = none ∧ t.Closed)
  | drops (hgate : m.gate = .disposing) (hbooks : t.books = { m.books with client := none }) (hclosed : t.Closed)
  | task (n : Nat) (launch : HelperLaunch) (phase : TaskPhase) (hn : m.launches[n]? = some launch)
      (hmoves : m.TaskMoves launch.phase phase) (hreads : launch.phase = .exited → l = .reads n)
      (ht : t = m.setPhase n launch phase)
  | returns (n : Nat) (launch : HelperLaunch) (hn : m.launches[n]? = some launch) (hwaiting : launch.phase = .waiting)
      (hother : launch.generation % 2 ^ 32 ≠ m.generation % 2 ^ 32) (hgate : m.gate = .free)
      (ht : t = m.setPhase n launch .finished)
  | disposes (n now c : Nat) (launch : HelperLaunch) (hl : l = .enters n now) (hn : m.launches[n]? = some launch)
      (hwaiting : launch.phase = .waiting) (hsame : launch.generation % 2 ^ 32 = m.generation % 2 ^ 32)
      (hgate : m.gate = .free) (hclient : m.client = some c)
      (ht : t = { m.setPhase n launch (.inside m.intentionalStop) with
        gate := .handling n
        disposed := m.disposed ++ [(n, c)] })
  | concludes (n : Nat) (launch : HelperLaunch) (intentional : Bool) (phase : TaskPhase) (hn : m.launches[n]? = some launch)
      (hfrom : (∃ now, l = .enters n now) ∧ m.gate = .free ∧ launch.phase = .waiting ∧ m.client = none ∧
          launch.generation % 2 ^ 32 = m.generation % 2 ^ 32 ∧ intentional = m.intentionalStop ∨
        m.gate = .handling n ∧ launch.phase = .inside intentional)
      (hphase : Concludes intentional phase)
      (hbooks : t.books = { m.books with
        client := none
        cleared := m.cleared ++ m.client.toList.map (n, ·)
        launches := m.launches.set n { launch with phase } })
      (hfree : t.gate = .free)
  | fails (n : Nat) (launch : HelperLaunch) (hl : l = .throws) (hn : m.launches[n]? = some launch) (hgate : m.gate = .handling n)
      (ht : t = m.release n launch .finished)
  | raises (n : Nat) (launch : HelperLaunch) (willAutoRestart : Bool) (hn : m.launches[n]? = some launch)
      (hraising : launch.phase = .raising willAutoRestart)
      (ht : t = { m.setPhase n launch .finished with reports := m.reports ++ [(n, willAutoRestart)] })

theorem countCrash_books (m : ProcessLifecycle) (now : Nat) : (m.countCrash now).books = m.books := by
  unfold countCrash
  simp only
  split <;> rfl

theorem release_books {m u : ProcessLifecycle} (n : Nat) (launch : HelperLaunch) (phase : TaskPhase) (h : u.books = m.books) :
    (u.release n launch phase).books = { m.books with launches := m.launches.set n { launch with phase } } := by
  have hlaunches : u.launches = m.launches := congrArg Books.launches h
  show { u.books with launches := u.launches.set n { launch with phase } } = _
  rw [h, hlaunches]

theorem conclude_spec (m : ProcessLifecycle) (n : Nat) (launch : HelperLaunch) (intentional : Bool) (now : Nat) :
    ∃ phase, Concludes intentional phase ∧ (m.conclude n launch intentional now).gate = .free ∧
      (m.conclude n launch intentional now).books = { m.books with
        client := none
        cleared := m.cleared ++ m.client.toList.map (n, ·)
        launches := m.launches.set n { launch with phase } } := by
  unfold conclude
  cases intentional with
  | true => exact ⟨.finished, .inl ⟨rfl, rfl⟩, rfl, rfl⟩
  | false => exact ⟨_, .inr ⟨rfl, _, rfl⟩, rfl, release_books n launch _ (countCrash_books _ now)⟩

theorem stopCore_moves {m : ProcessLifecycle} {l : LifecycleLabel}
    (hopen : m.gate = .free ∨ m.gate = .resolving ∨ ∃ n, m.gate = .connecting n) : m.Moves m.stopCore l := by
  obtain ⟨hbooks, hgate⟩ := stopCore_closed m
  exact .stops m.generation (.inr rfl) (Nat.le_refl _) hopen hbooks
    (hgate.imp (fun h => ⟨h.1, h.2.1, fun _ => h.2.2⟩) fun h => h)

theorem launchThrows_moves {m : ProcessLifecycle} {l : LifecycleLabel} (issued : Bool) (hgate : m.gate = .resolving) :
    m.Moves (m.launchThrows issued).stopCore l := by
  have hopen : m.gate = .free ∨ m.gate = .resolving ∨ ∃ n, m.gate = .connecting n := .inr (.inl hgate)
  obtain ⟨hbooks, hstop⟩ := stopCore_closed (m.launchThrows issued)
  cases issued with
  | false =>
    exact .stops m.generation (.inl hgate) (Nat.le_refl _) hopen hbooks
      (hstop.imp (fun h => ⟨h.1, h.2.1, fun _ => h.2.2⟩) fun h => h)
  | true =>
    refine .stops (m.generation + 1) (.inl hgate) (Nat.le_succ _) hopen hbooks ?_
    exact hstop.imp (fun h => ⟨h.1, h.2.1, fun hfree => by rw [hgate] at hfree; cases hfree⟩) fun h => h

/-- An await of `StopCoreAsync` behind the client. -/
theorem closing_moves {m t : ProcessLifecycle} {l : LifecycleLabel} (hgate : closing m.gate = true)
    (h : t.books = m.books ∧ t.Closed) : m.Moves t l :=
  .quiet h.1 (.inl hgate) (.inr (.inr (.inr (.inl ⟨hgate, h.2⟩))))

theorem proceed_moves {m t : ProcessLifecycle} (h : m.step .proceed = some t) : m.Moves t .proceed := by
  simp only [step] at h
  split at h
  case h_1 hgate =>
    cases h
    exact .launches hgate rfl
  case h_2 n hgate =>
    cases h
    exact .connects n hgate rfl rfl rfl
  case h_3 hgate =>
    cases h
    exact .quiet rfl (.inr rfl) (.inr (.inr (.inl ⟨hgate, rfl⟩)))
  case h_4 hgate =>
    cases h
    obtain ⟨hbooks, hclosed⟩ := stopTask_closed { m with client := none }
    exact .drops hgate hbooks hclosed
  case h_5 hgate =>
    cases h
    exact closing_moves (by rw [hgate]; rfl) ⟨rfl, .inl rfl⟩
  case h_6 hgate =>
    cases h
    exact closing_moves (by rw [hgate]; rfl) ⟨rfl, .inl rfl⟩
  case h_7 hgate =>
    cases h
    exact closing_moves (by rw [hgate]; rfl) (stopEndpoint_closed { m with processTask := none })
  case h_8 hgate =>
    cases h
    exact closing_moves (by rw [hgate]; rfl) (stopEnds_closed { m with endpoint := false })
  all_goals cases h

theorem throws_moves {m t : ProcessLifecycle} (h : m.step .throws = some t) : m.Moves t .throws := by
  simp only [step] at h
  split at h
  case h_1 hgate =>
    cases h
    exact stopCore_moves (.inr (.inl hgate))
  case h_2 n hgate =>
    cases h
    exact stopCore_moves (.inr (.inr ⟨n, hgate⟩))
  case h_3 hgate =>
    cases h
    exact .quiet rfl (.inr rfl) (.inr (.inr (.inr (.inr ⟨rfl, .inl hgate, rfl⟩))))
  case h_4 hgate =>
    cases h
    exact .quiet rfl (.inr rfl) (.inr (.inr (.inr (.inr ⟨rfl, .inr hgate, rfl⟩))))
  case h_9 n hgate =>
    obtain ⟨launch, hn, h⟩ := Option.bind_eq_some_iff.1 h
    cases h
    exact .fails n launch rfl hn hgate rfl
  case h_10 => cases h
  all_goals
    rename_i hgate
    cases h
    exact closing_moves (by rw [hgate]; rfl) ⟨rfl, .inr rfl⟩

theorem enters_moves {m t : ProcessLifecycle} {n now : Nat} (h : m.step (.enters n now) = some t) :
    m.Moves t (.enters n now) := by
  simp only [step, Option.bind_eq_bind, Option.bind_eq_some_iff, Option.ite_none_right_eq_some, Option.some.injEq] at h
  obtain ⟨launch, hn, ⟨hwaiting, hgate⟩, rfl⟩ := h
  unfold enter
  split
  · rename_i hother
    exact .returns n launch hn hwaiting hother hgate rfl
  · rename_i hsame
    have hsame := not_not.1 hsame
    split
    · rename_i c hclient
      exact .disposes n now c launch rfl hn hwaiting hsame hgate hclient rfl
    · rename_i hclient
      obtain ⟨phase, hphase, hfree, hbooks⟩ := conclude_spec m n launch m.intentionalStop now
      exact .concludes n launch m.intentionalStop phase hn
        (.inl ⟨⟨now, rfl⟩, hgate, hwaiting, hclient, hsame, rfl⟩) hphase hbooks hfree

theorem step_moves {m t : ProcessLifecycle} {l : LifecycleLabel} (h : m.step l = some t) : m.Moves t l := by
  cases l with
  | ensure =>
    simp only [step] at h
    split at h
    · rename_i c hgate hclient
      cases h
      exact .quiet rfl (.inr rfl) (.inl ⟨hgate, hgate⟩)
    · rename_i hgate hclient
      cases h
      exact .quiet rfl (.inr rfl) (.inr (.inl ⟨hclient, rfl⟩))
    · cases h
  | stop =>
    simp only [step, Option.ite_none_right_eq_some, Option.some.injEq] at h
    obtain ⟨hgate, rfl⟩ := h
    exact stopCore_moves (.inl hgate)
  | proceed => exact proceed_moves h
  | timesOut =>
    simp only [step] at h
    split at h
    · rename_i hgate
      cases h
      refine closing_moves (by rw [hgate]; rfl) ⟨rfl, .inl ?_⟩
      simp only
      split <;> rfl
    · cases h
  | throws => exact throws_moves h
  | launchThrows issued =>
    simp only [step, Option.ite_none_right_eq_some, Option.some.injEq] at h
    obtain ⟨hgate, rfl⟩ := h
    exact launchThrows_moves issued hgate
  | exits n =>
    simp only [step, Option.bind_eq_bind, Option.bind_eq_some_iff, Option.ite_none_right_eq_some, Option.some.injEq] at h
    obtain ⟨launch, hn, hrunning, rfl⟩ := h
    exact .task n launch .exited hn (.inl ⟨hrunning, rfl⟩) (fun he => by rw [hrunning] at he; cases he) rfl
  | neverRuns n =>
    simp only [step, Option.bind_eq_bind, Option.bind_eq_some_iff, Option.ite_none_right_eq_some, Option.some.injEq] at h
    obtain ⟨launch, hn, ⟨hrunning, hcancellation⟩, rfl⟩ := h
    exact .task n launch .skipped hn (.inr (.inl ⟨hrunning, hcancellation, rfl⟩))
      (fun he => by rw [hrunning] at he; cases he) rfl
  | reads n =>
    simp only [step, Option.bind_eq_bind, Option.bind_eq_some_iff, Option.ite_none_right_eq_some, Option.some.injEq] at h
    obtain ⟨launch, hn, hexited, rfl⟩ := h
    refine .task n launch _ hn ?_ (fun _ => rfl) rfl
    cases hstop : m.intentionalStop with
    | true => exact .inr (.inr (.inl ⟨hexited, hstop, rfl⟩))
    | false => exact .inr (.inr (.inr ⟨hexited, hstop, rfl⟩))
  | enters n now => exact enters_moves h
  | handled now =>
    simp only [step] at h
    split at h
    · rename_i n hgate
      obtain ⟨launch, hn, h⟩ := Option.bind_eq_some_iff.1 h
      split at h
      · rename_i intentional hinside
        cases h
        obtain ⟨phase, hphase, hfree, hbooks⟩ := conclude_spec m n launch intentional now
        exact .concludes n launch intentional phase hn (.inr ⟨hgate, hinside⟩) hphase hbooks hfree
      · cases h
    · cases h
  | raises n =>
    simp only [step, Option.bind_eq_bind, Option.bind_eq_some_iff] at h
    obtain ⟨launch, hn, h⟩ := h
    split at h
    · rename_i willAutoRestart hraising
      cases h
      exact .raises n launch willAutoRestart hn hraising rfl
    · cases h

end ProcessLifecycle

end Terracotta
