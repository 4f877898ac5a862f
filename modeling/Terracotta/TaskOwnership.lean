import Mathlib.Data.List.Nodup
import Terracotta.Run
import Terracotta.Slots
/-!
# The tasks of the controller and its disposal (`TerracottaController.cs`)

`QueueOperation` and `StartStatusPolling` hand work to the task service on any thread, beside a `DisposeAsync` that may
come at any time.  `_disposed`, `_statusPollCts` and the list under `_taskSync` are each read and written at once, and
every such access is a step here.
-/
namespace Terracotta

/-- A call of `QueueOperation`, `StartStatusPolling` or `StopStatusPolling`, before its next access. -/
inductive StartPhase
  -- `StopStatusPolling`, by itself or at the start of `StartStatusPolling`
  | exchanging (starts : Bool)
  | canceling (starts : Bool) (poll : Nat)
  | assigning
  -- before `_tasks.Run`, of a poll with its source or of an operation
  | running (poll : Option Nat)
  -- `TrackOwnedTask`, before its lock and in the `DisposeAsync` behind it
  | tracking (task : Nat)
  | dropping (task : Nat)
deriving DecidableEq

/-- The `DisposeAsync` that has set `_disposed`; every other one returns at once. -/
inductive DisposalPhase
  | shuttingDown
  | exchanging
  | canceling (poll : Nat)
  | taking
  | disposing (rest : List Nat)
  -- in `LeaveAsync` or behind it
  | leaving
  | failed
deriving DecidableEq

structure TaskOwnership where
  disposal : Option DisposalPhase
  statusPollCts : Option Nat
  /-- How many sources of polls there are, and those that are canceled. -/
  polls : Nat
  canceled : List Nat
  /-- The tasks that were run, a poll with the number of its source. -/
  tasks : List (Option Nat)
  ownedTasks : List Nat
  /-- What `_context.Lifetime` tracks. -/
  lifetime : List Nat
  calls : List StartPhase
  /-- The tasks whose `DisposeAsync` was called, in the loop of `DisposeAsync` and by `TrackOwnedTask`. -/
  disposed : List Nat
  dropped : List Nat

inductive OwnershipLabel
  | queueOperation
  | startStatusPolling
  | stopStatusPolling
  -- the call with this number goes on; `Cancel` and `Run` may throw
  | exchange (i : Nat)
  | cancel (i : Nat) (returns : Bool)
  | assign (i : Nat)
  | run (i : Nat) (returns : Bool)
  | track (i : Nat)
  | drop (i : Nat)
  | dispose
  | shutDown (returns : Bool)
  | disposeExchange
  | disposeCancel (returns : Bool)
  | take
  | disposeNext
deriving DecidableEq

namespace TaskOwnership

def init : TaskOwnership := ⟨none, none, 0, [], [], [], [], [], [], []⟩

/-- `StopStatusPolling` is over; in `StartStatusPolling` there is more. -/
def unpolled (s : TaskOwnership) (i : Nat) (starts : Bool) : TaskOwnership :=
  if starts then { s with calls := s.calls.set i .assigning } else { s with calls := s.calls.eraseIdx i }

def step (s : TaskOwnership) : OwnershipLabel → Option TaskOwnership
  | .queueOperation =>
    if s.disposal = none then some { s with calls := s.calls ++ [.running none] } else some s
  | .startStatusPolling => some { s with calls := s.calls ++ [.exchanging true] }
  | .stopStatusPolling => some { s with calls := s.calls ++ [.exchanging false] }
  | .exchange i => match s.calls[i]? with
    | some (.exchanging starts) => match s.statusPollCts with
      | none => some (s.unpolled i starts)
      | some poll => some { s with statusPollCts := none, calls := s.calls.set i (.canceling starts poll) }
    | _ => none
  | .cancel i returns => match s.calls[i]? with
    | some (.canceling starts poll) =>
      some ({ s with canceled := s.canceled ++ [poll] }.unpolled i (starts && returns))
    | _ => none
  | .assign i => match s.calls[i]? with
    | some .assigning =>
      some { s with
        statusPollCts := some s.polls, polls := s.polls + 1, calls := s.calls.set i (.running (some s.polls)) }
    | _ => none
  | .run i returns => match s.calls[i]? with
    | some (.running poll) =>
      if returns then
        some { s with tasks := s.tasks ++ [poll], calls := s.calls.set i (.tracking s.tasks.length) }
      else some { s with calls := s.calls.eraseIdx i }
    | _ => none
  | .track i => match s.calls[i]? with
    | some (.tracking task) =>
      if s.disposal = none then
        some { s with
          ownedTasks := s.ownedTasks ++ [task], lifetime := s.lifetime ++ [task], calls := s.calls.eraseIdx i }
      else some { s with calls := s.calls.set i (.dropping task) }
    | _ => none
  | .drop i => match s.calls[i]? with
    | some (.dropping task) => some { s with dropped := s.dropped ++ [task], calls := s.calls.eraseIdx i }
    | _ => none
  | .dispose => match s.disposal with
    | none => some { s with disposal := some .shuttingDown }
    | some _ => some s
  | .shutDown returns => match s.disposal with
    | some .shuttingDown => some { s with disposal := some (if returns then .exchanging else .failed) }
    | _ => none
  | .disposeExchange => match s.disposal with
    | some .exchanging => match s.statusPollCts with
      | none => some { s with disposal := some .taking }
      | some poll => some { s with statusPollCts := none, disposal := some (.canceling poll) }
    | _ => none
  | .disposeCancel returns => match s.disposal with
    | some (.canceling poll) =>
      some { s with canceled := s.canceled ++ [poll], disposal := some (if returns then .taking else .failed) }
    | _ => none
  | .take => match s.disposal with
    | some .taking => some { s with ownedTasks := [], disposal := some (.disposing s.ownedTasks) }
    | _ => none
  | .disposeNext => match s.disposal with
    | some (.disposing []) => some { s with disposal := some .leaving }
    -- an exception of the task is caught
    | some (.disposing (task :: rest)) =>
      some { s with disposed := s.disposed ++ [task], disposal := some (.disposing rest) }
    | _ => none

variable {s t : TaskOwnership}

/-! ## Where a task is -/

/-- The task that a call has run and nobody else has. -/
def heldTask : StartPhase → Option Nat
  | .tracking task | .dropping task => some task
  | _ => none

def inHands (s : TaskOwnership) : List Nat := s.calls.filterMap heldTask

/-- What the loop of `DisposeAsync` has still to dispose. -/
def rest (s : TaskOwnership) : List Nat :=
  match s.disposal with
  | some (.disposing rest) => rest
  | _ => []

/-- `DisposeAsync` is behind its lock. -/
def Took (s : TaskOwnership) : Prop := (∃ rest, s.disposal = some (.disposing rest)) ∨ s.disposal = some .leaving

/-- **Every task is in one place**, and the plugin's lifetime tracks those that were registered. -/
structure Accounts (s : TaskOwnership) : Prop where
  tasks : ∀ task, s.dropped.count task + s.disposed.count task + s.inHands.count task + s.ownedTasks.count task +
    s.rest.count task = (List.range s.tasks.length).count task
  lifetime : ∀ task, s.lifetime.count task = s.disposed.count task + s.ownedTasks.count task + s.rest.count task
  taken : s.Took → s.ownedTasks = []

/-- A step of calls that hold no task, or of `DisposeAsync` outside its list. -/
theorem Accounts.keep (h : s.Accounts) (hdropped : t.dropped = s.dropped) (hdisposed : t.disposed = s.disposed)
    (hhands : ∀ task, t.inHands.count task = s.inHands.count task) (howned : t.ownedTasks = s.ownedTasks)
    (hrest : t.rest = s.rest) (htasks : t.tasks = s.tasks) (hlifetime : t.lifetime = s.lifetime)
    (htook : t.Took → s.Took) : t.Accounts where
  tasks task := by
    rw [hdropped, hdisposed, hhands, howned, hrest, htasks]
    exact h.tasks task
  lifetime task := by
    rw [hdisposed, howned, hrest, hlifetime]
    exact h.lifetime task
  taken ht := howned.trans (h.taken (htook ht))

theorem init_accounts : init.Accounts := ⟨fun _ => rfl, fun _ => rfl, fun _ => rfl⟩

@[simp] theorem unpolled_tasks (i : Nat) (starts : Bool) : (s.unpolled i starts).tasks = s.tasks := by
  cases starts <;> rfl
@[simp] theorem unpolled_disposal (i : Nat) (starts : Bool) : (s.unpolled i starts).disposal = s.disposal := by
  cases starts <;> rfl
@[simp] theorem unpolled_ownedTasks (i : Nat) (starts : Bool) : (s.unpolled i starts).ownedTasks = s.ownedTasks := by
  cases starts <;> rfl
@[simp] theorem unpolled_lifetime (i : Nat) (starts : Bool) : (s.unpolled i starts).lifetime = s.lifetime := by
  cases starts <;> rfl
@[simp] theorem unpolled_disposed (i : Nat) (starts : Bool) : (s.unpolled i starts).disposed = s.disposed := by
  cases starts <;> rfl
@[simp] theorem unpolled_dropped (i : Nat) (starts : Bool) : (s.unpolled i starts).dropped = s.dropped := by
  cases starts <;> rfl
@[simp] theorem unpolled_rest (i : Nat) (starts : Bool) : (s.unpolled i starts).rest = s.rest := by
  cases starts <;> rfl

/-- A call is done with `StopStatusPolling`. -/
theorem Accounts.unpolled (h : s.Accounts) {i : Nat} {p : StartPhase} (hp : s.calls[i]? = some p)
    (hheld : heldTask p = none) (starts : Bool) : (s.unpolled i starts).Accounts := by
  refine h.keep (by simp) (by simp) ?_ (by simp) (by simp) (by simp) (by simp) fun ht => by simpa [Took] using ht
  cases starts with
  | true => exact Slots.count_set_of_eq heldTask hp hheld.symm
  | false => exact Slots.count_eraseIdx_of_none heldTask hp hheld

/-- A phase of `DisposeAsync` before its list. -/
theorem Accounts.early (h : s.Accounts) {phase : DisposalPhase} (hrest : s.rest = [])
    (hphase : ∀ rest, phase ≠ .disposing rest) (hleaving : phase ≠ .leaving) :
    Accounts { s with disposal := some phase } := by
  refine h.keep rfl rfl (fun _ => rfl) rfl ?_ rfl rfl fun ht => ?_
  · rw [hrest]
    unfold rest
    cases phase with
    | disposing rest => exact absurd rfl (hphase rest)
    | shuttingDown | exchanging | canceling poll | taking | leaving | failed => rfl
  · rcases ht with ⟨rest, hdisposing⟩ | hover
    · exact absurd (Option.some.inj hdisposing) (hphase rest)
    · exact absurd (Option.some.inj hover) hleaving

theorem step_accounts (l : OwnershipLabel) (h : s.Accounts) (hstep : step s l = some t) : t.Accounts := by
  cases l with
  | queueOperation =>
    simp only [step] at hstep
    split at hstep <;> cases hstep
    · exact h.keep rfl rfl (Slots.count_snoc_of_none heldTask s.calls rfl) rfl rfl rfl rfl id
    · exact h
  | startStatusPolling | stopStatusPolling =>
    cases hstep
    exact h.keep rfl rfl (Slots.count_snoc_of_none heldTask s.calls rfl) rfl rfl rfl rfl id
  | exchange i =>
    simp only [step] at hstep
    split at hstep
    · rename_i starts hp
      split at hstep <;> cases hstep
      · exact h.unpolled hp rfl starts
      · exact h.keep rfl rfl (Slots.count_set_of_eq heldTask hp rfl) rfl rfl rfl rfl id
    · cases hstep
  | cancel i returns =>
    simp only [step] at hstep
    split at hstep
    · rename_i starts poll hp
      cases hstep
      have hcanceled : Accounts { s with canceled := s.canceled ++ [poll] } :=
        h.keep rfl rfl (fun _ => rfl) rfl rfl rfl rfl id
      exact hcanceled.unpolled hp rfl _
    · cases hstep
  | assign i =>
    simp only [step] at hstep
    split at hstep
    · rename_i hp
      cases hstep
      exact h.keep rfl rfl (Slots.count_set_of_eq heldTask hp rfl) rfl rfl rfl rfl id
    · cases hstep
  | run i returns =>
    simp only [step] at hstep
    split at hstep
    · rename_i poll hp
      split at hstep <;> cases hstep
      · refine ⟨fun task => ?_, h.lifetime, h.taken⟩
        have htasks := h.tasks task
        unfold inHands at htasks
        have hcount := Slots.count_set heldTask hp (.tracking s.tasks.length) task
        show s.dropped.count task + s.disposed.count task +
          ((s.calls.set i (.tracking s.tasks.length)).filterMap heldTask).count task + s.ownedTasks.count task +
          s.rest.count task = (List.range (s.tasks ++ [poll]).length).count task
        rw [List.length_append, List.length_singleton, List.range_succ, List.count_append]
        simp only [heldTask, Option.toList_none, Option.toList_some, List.count_nil] at hcount
        omega
      · exact h.keep rfl rfl (Slots.count_eraseIdx_of_none heldTask hp rfl) rfl rfl rfl rfl id
    · cases hstep
  | track i =>
    simp only [step] at hstep
    split at hstep
    · rename_i task hp
      split at hstep <;> cases hstep
      · rename_i hdisposal
        refine ⟨fun other => ?_, fun other => ?_, fun htook => ?_⟩
        · have htasks := h.tasks other
          unfold inHands at htasks
          have hcount := Slots.count_eraseIdx heldTask hp other
          show s.dropped.count other + s.disposed.count other + ((s.calls.eraseIdx i).filterMap heldTask).count other +
            (s.ownedTasks ++ [task]).count other + s.rest.count other = (List.range s.tasks.length).count other
          rw [List.count_append]
          simp only [heldTask, Option.toList_some] at hcount
          omega
        · have hlifetime := h.lifetime other
          show (s.lifetime ++ [task]).count other =
            s.disposed.count other + (s.ownedTasks ++ [task]).count other + s.rest.count other
          rw [List.count_append, List.count_append]
          omega
        · unfold Took at htook
          rw [hdisposal] at htook
          simp at htook
      · exact h.keep rfl rfl (Slots.count_set_of_eq heldTask hp rfl) rfl rfl rfl rfl id
    · cases hstep
  | drop i =>
    simp only [step] at hstep
    split at hstep
    · rename_i task hp
      cases hstep
      refine ⟨fun other => ?_, h.lifetime, h.taken⟩
      have htasks := h.tasks other
      unfold inHands at htasks
      have hcount := Slots.count_eraseIdx heldTask hp other
      show (s.dropped ++ [task]).count other + s.disposed.count other +
        ((s.calls.eraseIdx i).filterMap heldTask).count other + s.ownedTasks.count other + s.rest.count other =
        (List.range s.tasks.length).count other
      rw [List.count_append]
      simp only [heldTask, Option.toList_some] at hcount
      omega
    · cases hstep
  | dispose =>
    simp only [step] at hstep
    split at hstep <;> cases hstep
    · rename_i hdisposal
      exact h.early (by unfold rest; rw [hdisposal]) (fun rest => by simp) (by simp)
    · exact h
  | shutDown returns =>
    simp only [step] at hstep
    split at hstep
    · rename_i hdisposal
      cases hstep
      exact h.early (by unfold rest; rw [hdisposal]) (fun rest => by cases returns <;> simp) (by cases returns <;> simp)
    · cases hstep
  | disposeExchange =>
    simp only [step] at hstep
    split at hstep
    · rename_i hdisposal
      have hrest : s.rest = [] := by unfold rest; rw [hdisposal]
      split at hstep <;> cases hstep
      · exact h.early hrest (fun rest => by simp) (by simp)
      · rename_i poll hcts
        have htaken : Accounts { s with statusPollCts := none } := h.keep rfl rfl (fun _ => rfl) rfl rfl rfl rfl id
        exact htaken.early hrest (fun rest => by simp) (by simp)
    · cases hstep
  | disposeCancel returns =>
    simp only [step] at hstep
    split at hstep
    · rename_i poll hdisposal
      cases hstep
      have hcanceled : Accounts { s with canceled := s.canceled ++ [poll] } :=
        h.keep rfl rfl (fun _ => rfl) rfl rfl rfl rfl id
      have hrest : s.rest = [] := by unfold rest; rw [hdisposal]
      exact hcanceled.early hrest (fun rest => by cases returns <;> simp) (by cases returns <;> simp)
    · cases hstep
  | take =>
    simp only [step] at hstep
    split at hstep
    · rename_i hdisposal
      cases hstep
      have hrest : s.rest = [] := by unfold rest; rw [hdisposal]
      refine ⟨fun task => ?_, fun task => ?_, fun _ => rfl⟩
      · have htasks := h.tasks task
        rw [hrest] at htasks
        show s.dropped.count task + s.disposed.count task + s.inHands.count task + [].count task +
          s.ownedTasks.count task = (List.range s.tasks.length).count task
        omega
      · have hlifetime := h.lifetime task
        rw [hrest] at hlifetime
        show s.lifetime.count task = s.disposed.count task + [].count task + s.ownedTasks.count task
        omega
    · cases hstep
  | disposeNext =>
    simp only [step] at hstep
    split at hstep
    · rename_i hdisposal
      cases hstep
      have hrest : s.rest = [] := by unfold rest; rw [hdisposal]
      exact h.keep rfl rfl (fun _ => rfl) rfl hrest.symm rfl rfl fun _ => .inl ⟨_, hdisposal⟩
    · rename_i task remaining hdisposal
      cases hstep
      have hrest : s.rest = [task] ++ remaining := by unfold rest; rw [hdisposal]; rfl
      refine ⟨fun other => ?_, fun other => ?_, fun _ => h.taken (.inl ⟨_, hdisposal⟩)⟩
      · have htasks := h.tasks other
        rw [hrest, List.count_append] at htasks
        show s.dropped.count other + (s.disposed ++ [task]).count other + s.inHands.count other +
          s.ownedTasks.count other + remaining.count other = (List.range s.tasks.length).count other
        rw [List.count_append]
        omega
      · have hlifetime := h.lifetime other
        rw [hrest, List.count_append] at hlifetime
        show s.lifetime.count other = (s.disposed ++ [task]).count other + s.ownedTasks.count other + remaining.count other
        rw [List.count_append]
        omega
    · cases hstep

/-- **Whatever comes between, `DisposeAsync` leaves no task behind**: no task is ever disposed twice, and once the loop is
over every task that was run has been disposed, by the loop if the plugin's lifetime tracks it and else by the call that
ran it, or is in the hands of that call. -/
theorem disposal_leaves_no_task (labels : List OwnershipLabel) (s : TaskOwnership)
    (h : Run.run step init labels = some s) :
    (s.dropped ++ s.disposed).Nodup ∧
      (s.disposal = some .leaving →
        (s.dropped ++ s.disposed ++ s.inHands).Perm (List.range s.tasks.length) ∧ s.lifetime.Perm s.disposed) := by
  have hs : s.Accounts := Run.invariant_all Accounts (fun _ l _ hi ht => step_accounts l hi ht) init_accounts h
  constructor
  · refine List.nodup_iff_count_le_one.2 fun task => ?_
    have hcount := hs.tasks task
    have honce := List.nodup_iff_count_le_one.1 (List.nodup_range (n := s.tasks.length)) task
    rw [List.count_append]
    omega
  · intro hleaving
    have howned := hs.taken (.inr hleaving)
    have hrest : s.rest = [] := by unfold rest; rw [hleaving]
    refine ⟨List.perm_iff_count.2 fun task => ?_, List.perm_iff_count.2 fun task => ?_⟩
    · have hcount := hs.tasks task
      rw [howned, hrest] at hcount
      rw [List.count_append, List.count_append]
      exact hcount
    · have hcount := hs.lifetime task
      rw [howned, hrest] at hcount
      exact hcount

/-- One operation is registered, a second one is run beside `DisposeAsync`. -/
def disposedBeside : List OwnershipLabel :=
  [.queueOperation, .run 0 true, .track 0, .queueOperation, .run 0 true, .dispose, .track 0, .shutDown true,
    .disposeExchange, .take, .disposeNext, .disposeNext, .drop 0]

theorem both_tasks_are_disposed : ∃ s, Run.run step init disposedBeside = some s ∧ s.disposal = some .leaving ∧
    (s.dropped ++ s.disposed ++ s.inHands).Perm (List.range 2) ∧ s.lifetime.Perm s.disposed := by
  refine ⟨_, rfl, rfl, ?_⟩
  exact (disposal_leaves_no_task disposedBeside _ rfl).2 rfl

/-! ## Which polls can be stopped -/

/-- The source a call has taken out of the field to cancel it. -/
def takenPoll : StartPhase → Option Nat
  | .canceling _ poll => some poll
  | _ => none

def disposalPoll (s : TaskOwnership) : List Nat :=
  match s.disposal with
  | some (.canceling poll) => [poll]
  | _ => []

/-- The sources that are canceled, or about to be. -/
def stopped (s : TaskOwnership) : List Nat := s.canceled ++ (s.calls.filterMap takenPoll ++ s.disposalPoll)

/-- **Every poll that goes on is the one in the field**, where `StopStatusPolling` finds it. -/
def Stoppable (s : TaskOwnership) : Prop := ∀ poll < s.polls, poll ∈ s.stopped ∨ s.statusPollCts = some poll

/-- **The polls of a step**: they stay, the one in the field is stopped, or one is started. -/
inductive PollMove (s : TaskOwnership) (l : OwnershipLabel) (t : TaskOwnership) : Prop
  | keeps (hpolls : t.polls = s.polls) (hcts : t.statusPollCts = s.statusPollCts)
      (hstopped : ∀ poll, poll ∈ t.stopped ↔ poll ∈ s.stopped)
  | stops (poll : Nat) (hpolls : t.polls = s.polls) (hfield : s.statusPollCts = some poll)
      (hcts : t.statusPollCts = none) (hstopped : ∀ other, other ∈ t.stopped ↔ other = poll ∨ other ∈ s.stopped)
  | starts (i : Nat) (hl : l = .assign i) (hcall : s.calls[i]? = some .assigning) (hpolls : t.polls = s.polls + 1)
      (hcts : t.statusPollCts = some s.polls) (hstopped : ∀ poll, poll ∈ t.stopped ↔ poll ∈ s.stopped)

theorem mem_taken_unpolled {i : Nat} {p : StartPhase} (hp : s.calls[i]? = some p) (starts : Bool) (poll : Nat) :
    poll ∈ (s.unpolled i starts).calls.filterMap takenPoll ↔ poll ∈ (s.calls.eraseIdx i).filterMap takenPoll := by
  cases starts with
  | true =>
    show poll ∈ (s.calls.set i .assigning).filterMap takenPoll ↔ _
    rw [Slots.mem_set takenPoll hp]
    simp [takenPoll]
  | false => exact Iff.rfl

/-- A step that touches no source. -/
theorem PollMove.of_taken {l : OwnershipLabel} (hpolls : t.polls = s.polls) (hcts : t.statusPollCts = s.statusPollCts)
    (hcanceled : t.canceled = s.canceled)
    (htaken : ∀ poll, poll ∈ t.calls.filterMap takenPoll ↔ poll ∈ s.calls.filterMap takenPoll)
    (hdisposal : t.disposalPoll = s.disposalPoll) : PollMove s l t := by
  refine .keeps hpolls hcts fun poll => ?_
  unfold stopped
  rw [hcanceled, hdisposal, List.mem_append, List.mem_append, List.mem_append, List.mem_append, htaken]

@[simp] theorem unpolled_polls (i : Nat) (starts : Bool) : (s.unpolled i starts).polls = s.polls := by
  cases starts <;> rfl
@[simp] theorem unpolled_statusPollCts (i : Nat) (starts : Bool) :
    (s.unpolled i starts).statusPollCts = s.statusPollCts := by cases starts <;> rfl
@[simp] theorem unpolled_canceled (i : Nat) (starts : Bool) : (s.unpolled i starts).canceled = s.canceled := by
  cases starts <;> rfl
@[simp] theorem unpolled_disposalPoll (i : Nat) (starts : Bool) :
    (s.unpolled i starts).disposalPoll = s.disposalPoll := by cases starts <;> rfl

theorem step_polls (l : OwnershipLabel) (hstep : step s l = some t) : PollMove s l t := by
  cases l with
  | queueOperation =>
    simp only [step] at hstep
    split at hstep <;> cases hstep
    · exact .of_taken rfl rfl rfl (Slots.mem_snoc_of_none takenPoll s.calls rfl) rfl
    · exact .of_taken rfl rfl rfl (fun _ => Iff.rfl) rfl
  | startStatusPolling | stopStatusPolling =>
    cases hstep
    exact .of_taken rfl rfl rfl (Slots.mem_snoc_of_none takenPoll s.calls rfl) rfl
  | exchange i =>
    simp only [step] at hstep
    split at hstep
    · rename_i starts hp
      split at hstep <;> cases hstep
      · refine .of_taken (by simp) (by simp) (by simp) (fun poll => ?_) (by simp)
        rw [mem_taken_unpolled hp, Slots.mem_eraseIdx takenPoll hp]
        simp [takenPoll]
      · rename_i poll hcts
        refine .stops poll rfl hcts rfl fun other => ?_
        show other ∈ s.canceled ++ ((s.calls.set i (.canceling starts poll)).filterMap takenPoll ++ s.disposalPoll) ↔ _
        unfold stopped
        simp only [List.mem_append, Slots.mem_set takenPoll hp, Slots.mem_eraseIdx takenPoll hp, takenPoll,
          Option.some.injEq, reduceCtorEq, false_or]
        grind
    · cases hstep
  | cancel i returns =>
    simp only [step] at hstep
    split at hstep
    · rename_i starts poll hp
      cases hstep
      refine .keeps (by simp) (by simp) fun other => ?_
      unfold stopped
      have htaken : other ∈ ({ s with canceled := s.canceled ++ [poll] }.unpolled i (starts && returns)).calls.filterMap
          takenPoll ↔ other ∈ (s.calls.eraseIdx i).filterMap takenPoll :=
        mem_taken_unpolled (s := { s with canceled := s.canceled ++ [poll] }) hp _ other
      have hdisposal : disposalPoll { s with canceled := s.canceled ++ [poll] } = s.disposalPoll := rfl
      rw [unpolled_canceled, unpolled_disposalPoll, hdisposal]
      simp only [List.mem_append, htaken, Slots.mem_eraseIdx takenPoll hp, takenPoll, Option.some.injEq,
        List.mem_singleton]
      grind
    · cases hstep
  | assign i =>
    simp only [step] at hstep
    split at hstep
    · rename_i hp
      cases hstep
      refine .starts i rfl hp rfl rfl fun poll => ?_
      show poll ∈ s.canceled ++ ((s.calls.set i (.running (some s.polls))).filterMap takenPoll ++ s.disposalPoll) ↔ _
      unfold stopped
      rw [List.mem_append, List.mem_append, List.mem_append, List.mem_append,
        Slots.mem_set_of_none takenPoll hp rfl rfl]
    · cases hstep
  | run i returns =>
    simp only [step] at hstep
    split at hstep
    · rename_i poll hp
      split at hstep <;> cases hstep
      · exact .of_taken rfl rfl rfl (Slots.mem_set_of_none takenPoll hp rfl rfl) rfl
      · exact .of_taken rfl rfl rfl (Slots.mem_eraseIdx_of_none takenPoll hp rfl) rfl
    · cases hstep
  | track i =>
    simp only [step] at hstep
    split at hstep
    · rename_i task hp
      split at hstep <;> cases hstep
      · exact .of_taken rfl rfl rfl (Slots.mem_eraseIdx_of_none takenPoll hp rfl) rfl
      · exact .of_taken rfl rfl rfl (Slots.mem_set_of_none takenPoll hp rfl rfl) rfl
    · cases hstep
  | drop i =>
    simp only [step] at hstep
    split at hstep
    · rename_i task hp
      cases hstep
      exact .of_taken rfl rfl rfl (Slots.mem_eraseIdx_of_none takenPoll hp rfl) rfl
    · cases hstep
  | dispose =>
    simp only [step] at hstep
    split at hstep <;> cases hstep
    · rename_i hdisposal
      exact .of_taken rfl rfl rfl (fun _ => Iff.rfl) (by unfold disposalPoll; rw [hdisposal])
    · exact .of_taken rfl rfl rfl (fun _ => Iff.rfl) rfl
  | shutDown returns =>
    simp only [step] at hstep
    split at hstep
    · rename_i hdisposal
      cases hstep
      exact .of_taken rfl rfl rfl (fun _ => Iff.rfl) (by unfold disposalPoll; rw [hdisposal]; cases returns <;> rfl)
    · cases hstep
  | take =>
    simp only [step] at hstep
    split at hstep
    · rename_i hdisposal
      cases hstep
      exact .of_taken rfl rfl rfl (fun _ => Iff.rfl) (by unfold disposalPoll; rw [hdisposal])
    · cases hstep
  | disposeNext =>
    simp only [step] at hstep
    split at hstep
    · rename_i hdisposal
      cases hstep
      exact .of_taken rfl rfl rfl (fun _ => Iff.rfl) (by unfold disposalPoll; rw [hdisposal])
    · rename_i task remaining hdisposal
      cases hstep
      exact .of_taken rfl rfl rfl (fun _ => Iff.rfl) (by unfold disposalPoll; rw [hdisposal])
    · cases hstep
  | disposeExchange =>
    simp only [step] at hstep
    split at hstep
    · rename_i hdisposal
      have hnone : s.disposalPoll = [] := by unfold disposalPoll; rw [hdisposal]
      split at hstep <;> cases hstep
      · exact .of_taken rfl rfl rfl (fun _ => Iff.rfl) hnone.symm
      · rename_i poll hcts
        refine .stops poll rfl hcts rfl fun other => ?_
        show other ∈ s.canceled ++ (s.calls.filterMap takenPoll ++ [poll]) ↔ _
        unfold stopped
        rw [hnone]
        simp only [List.mem_append, List.mem_singleton, List.not_mem_nil, or_false]
        grind
    · cases hstep
  | disposeCancel returns =>
    simp only [step] at hstep
    split at hstep
    · rename_i poll hdisposal
      cases hstep
      have hone : s.disposalPoll = [poll] := by unfold disposalPoll; rw [hdisposal]
      refine .keeps rfl rfl fun other => ?_
      have hnone : disposalPoll { s with
          canceled := s.canceled ++ [poll], disposal := some (if returns then .taking else .failed) } = [] := by
        cases returns <;> rfl
      unfold stopped
      rw [hnone, hone]
      simp only [List.mem_append, List.mem_singleton, List.not_mem_nil, or_false]
      grind
    · cases hstep

/-- Numbers of sources are given out in order. -/
structure Sources (s : TaskOwnership) : Prop where
  stopped : ∀ poll ∈ s.stopped, poll < s.polls ∧ s.statusPollCts ≠ some poll
  field : ∀ poll, s.statusPollCts = some poll → poll < s.polls

theorem init_sources : init.Sources :=
  ⟨fun poll h => (by simp [TaskOwnership.stopped, init, disposalPoll] at h), fun poll h => (by cases h)⟩

theorem step_sources (l : OwnershipLabel) (h : s.Sources) (hstep : step s l = some t) : t.Sources := by
  cases step_polls l hstep with
  | keeps hpolls hcts hstopped =>
    refine ⟨fun poll hm => ?_, fun poll hc => ?_⟩
    · rw [hpolls, hcts]
      exact h.stopped poll ((hstopped poll).1 hm)
    · rw [hpolls]
      exact h.field poll (hcts ▸ hc)
  | stops poll hpolls hfield hcts hstopped =>
    refine ⟨fun other hm => ?_, fun other hc => ?_⟩
    · rw [hpolls, hcts]
      refine ⟨?_, by simp⟩
      rcases (hstopped other).1 hm with rfl | hm
      · exact h.field other hfield
      · exact (h.stopped other hm).1
    · rw [hcts] at hc
      cases hc
  | starts i hl hcall hpolls hcts hstopped =>
    refine ⟨fun poll hm => ?_, fun poll hc => ?_⟩
    · have hlt := (h.stopped poll ((hstopped poll).1 hm)).1
      rw [hpolls, hcts]
      refine ⟨by omega, fun heq => ?_⟩
      cases heq
      omega
    · rw [hcts] at hc
      cases hc
      rw [hpolls]
      omega

/-- `StartStatusPolling` puts its source where none is: no other one has done so since it stopped the last. -/
def Alone (s : TaskOwnership) (l : OwnershipLabel) : Prop :=
  ∀ i, l = .assign i → s.calls[i]? = some .assigning → s.statusPollCts = none

theorem step_stoppable_iff (s : TaskOwnership) (l : OwnershipLabel) (hs : s.Sources) (h : s.Stoppable) :
    s.Alone l ↔ ∀ t, step s l = some t → t.Stoppable := by
  constructor
  · intro halone t hstep poll hpoll
    cases step_polls l hstep with
    | keeps hpolls hcts hstopped =>
      rw [hstopped, hcts]
      exact h poll (hpolls ▸ hpoll)
    | stops other hpolls hfield hcts hstopped =>
      rw [hstopped]
      rcases h poll (hpolls ▸ hpoll) with hm | hc
      · exact .inl (.inr hm)
      · rw [hfield] at hc
        exact .inl (.inl (Option.some.inj hc).symm)
    | starts i hl hcall hpolls hcts hstopped =>
      rw [hstopped, hcts]
      rw [hpolls] at hpoll
      rcases Nat.lt_succ_iff_lt_or_eq.1 hpoll with hlt | rfl
      · rcases h poll hlt with hm | hc
        · exact .inl hm
        · rw [halone i hl hcall] at hc
          cases hc
      · exact .inr rfl
  · rintro hall i rfl hcall
    have hstep : step s (.assign i) = some { s with
        statusPollCts := some s.polls, polls := s.polls + 1, calls := s.calls.set i (.running (some s.polls)) } := by
      simp only [step, hcall]
    by_contra hcts
    obtain ⟨poll, hpoll⟩ := Option.ne_none_iff_exists'.1 hcts
    have hlt := hs.field poll hpoll
    cases step_polls _ hstep with
    | keeps hpolls hsame hstopped => simp at hpolls
    | stops other hpolls hfield hsame hstopped => simp at hpolls
    | starts j hl hcall' hpolls hsame hstopped =>
      -- the source that was in the field
      rcases hall _ hstep poll (by rw [hpolls]; omega) with hm | hc
      · exact (hs.stopped poll ((hstopped poll).1 hm)).2 hpoll
      · rw [hsame] at hc
        cases hc
        omega

/-- **A poll gets lost exactly where two starts overlap**: as long as `StartStatusPolling` never finds a source in the
field that another one has put there since its own `StopStatusPolling`, every poll of a run is canceled, about to be, or
in the field, and from the first such assignment on there is one that no `StopStatusPolling` reaches. -/
theorem polls_are_stoppable_iff (labels : List OwnershipLabel) :
    Run.Always step Stoppable init labels ↔ Run.Along step Alone init labels := by
  refine Run.always_iff_along_of Sources Stoppable (fun s l t hs ht => step_sources l hs ht) step_stoppable_iff labels
    init_sources fun poll hpoll => ?_
  exact absurd hpoll (Nat.not_lt_zero poll)

end TaskOwnership

end Terracotta
