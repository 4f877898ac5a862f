import Terracotta.Scaffolding
import Terracotta.Run
/-!
# The loops that accept connections (`network/port_forward.rs`, `scaffolding/server.rs`)

A forwarder spawns a task for each connection it accepts and forgets it; the Scaffolding server keeps its clients in a set.
Each waits in one `select!` for the next connection and for the end.
-/
namespace Terracotta

open Run (run Along Always)

/-! ## `PortForward` -/

namespace Forwarding

/-- How far the task of a connection is. -/
inductive Stage where
  | spawned
  | connecting
  | copying
  | ended
deriving DecidableEq

/-- Between its `fetch_add` and its `fetch_sub`. -/
def Stage.counted : Stage → Bool
  | .connecting | .copying => true
  | .spawned | .ended => false

structure Forwarder where
  listening : Bool -- `run_listener` is in its loop
  connections : List Stage
  activeConnections : Nat
  stopCalled : Bool
  stopReturned : Bool
deriving DecidableEq

inductive Label where
  | accept (result : Except String Unit)
  -- the task of a connection: it counts itself, connects to the target or does not, and is through with copying
  | begins (i : Nat)
  | connects (i : Nat) (made : Bool)
  | finishes (i : Nat)
  -- `stop`: the signal and the abort, the end of the loop, and the return
  | stop
  | loopEnds
  | returns

def start : Forwarder := ⟨true, [], 0, false, false⟩

def step (f : Forwarder) : Label → Option Forwarder
  | .accept result =>
    if f.listening then match result with
      | .ok () => some { f with connections := f.connections ++ [.spawned] }
      | .error _ => some { f with listening := false }
    else none
  | .begins i =>
    if f.connections[i]? = some .spawned then
      some { f with connections := f.connections.set i .connecting, activeConnections := f.activeConnections + 1 }
    else none
  | .connects i made =>
    if f.connections[i]? = some .connecting then
      if made then some { f with connections := f.connections.set i .copying }
      else some { f with connections := f.connections.set i .ended, activeConnections := f.activeConnections - 1 }
    else none
  | .finishes i =>
    if f.connections[i]? = some .copying then
      some { f with connections := f.connections.set i .ended, activeConnections := f.activeConnections - 1 }
    else none
  | .stop => if f.stopCalled then none else some { f with stopCalled := true }
  | .loopEnds => if f.stopCalled ∧ f.listening then some { f with listening := false } else none
  | .returns =>
    if f.stopCalled ∧ !f.listening ∧ !f.stopReturned then some { f with stopReturned := true } else none

/-! ### What a step keeps -/

/-- The counter is that of the connections between `fetch_add` and `fetch_sub`, and behind a stop nothing is accepted. -/
structure Counted (f : Forwarder) : Prop where
  active : f.activeConnections = f.connections.countP Stage.counted
  closed : f.stopReturned = true → f.listening = false

/-- A connection that goes on to another stage. -/
theorem countP_move {connections : List Stage} {i : Nat} {old : Stage} (new : Stage) (h : connections[i]? = some old) :
    (connections.set i new).countP Stage.counted + old.counted.toNat =
      connections.countP Stage.counted + new.counted.toNat := by
  obtain ⟨hi, hget⟩ := List.getElem?_eq_some_iff.1 h
  have hpos : old.counted = true → 0 < connections.countP Stage.counted := fun hcounted =>
    List.countP_pos_iff.2 ⟨old, List.mem_of_getElem? h, hcounted⟩
  rw [List.countP_set hi, hget]
  cases hold : old.counted with
  | false => cases new.counted <;> simp
  | true =>
    have hone := hpos hold
    cases new.counted <;> simp <;> omega

theorem Counted.step {f f' : Forwarder} {l : Label} (h : Counted f) (hstep : step f l = some f') : Counted f' := by
  have hactive := h.active
  cases l with
  | accept result =>
    simp only [Forwarding.step] at hstep
    split at hstep
    · cases result with
      | ok u =>
        cases hstep
        exact ⟨by simp [hactive, Stage.counted], h.closed⟩
      | error e =>
        cases hstep
        exact ⟨hactive, fun _ => rfl⟩
    · cases hstep
  | begins i =>
    simp only [Forwarding.step] at hstep
    split at hstep
    · rename_i hget
      cases hstep
      have hmove : (f.connections.set i .connecting).countP Stage.counted + 0 = f.connections.countP Stage.counted + 1 :=
        countP_move .connecting hget
      exact ⟨by show f.activeConnections + 1 = (f.connections.set i .connecting).countP Stage.counted; omega, h.closed⟩
    · cases hstep
  | connects i made =>
    simp only [Forwarding.step] at hstep
    split at hstep
    · rename_i hget
      cases made with
      | true =>
        cases hstep
        have hmove : (f.connections.set i .copying).countP Stage.counted + 1 = f.connections.countP Stage.counted + 1 :=
          countP_move .copying hget
        exact ⟨by show f.activeConnections = (f.connections.set i .copying).countP Stage.counted; omega, h.closed⟩
      | false =>
        cases hstep
        have hmove : (f.connections.set i .ended).countP Stage.counted + 1 = f.connections.countP Stage.counted + 0 :=
          countP_move .ended hget
        exact ⟨by show f.activeConnections - 1 = (f.connections.set i .ended).countP Stage.counted; omega, h.closed⟩
    · cases hstep
  | finishes i =>
    simp only [Forwarding.step] at hstep
    split at hstep
    · rename_i hget
      cases hstep
      have hmove : (f.connections.set i .ended).countP Stage.counted + 1 = f.connections.countP Stage.counted + 0 :=
        countP_move .ended hget
      exact ⟨by show f.activeConnections - 1 = (f.connections.set i .ended).countP Stage.counted; omega, h.closed⟩
    · cases hstep
  | stop =>
    simp only [Forwarding.step] at hstep
    split at hstep
    · cases hstep
    · cases hstep
      exact ⟨hactive, h.closed⟩
  | loopEnds =>
    simp only [Forwarding.step] at hstep
    split at hstep
    · cases hstep
      exact ⟨hactive, fun _ => rfl⟩
    · cases hstep
  | returns =>
    simp only [Forwarding.step] at hstep
    split at hstep
    · rename_i hends
      cases hstep
      exact ⟨hactive, fun _ => by simpa using hends.2.1⟩
    · cases hstep

theorem counted_start : Counted start := ⟨rfl, fun h => by cases h⟩

/-! ### The connections behind a stop -/

/-- Once `stop` has returned, nothing the forwarder accepted is forwarded or counted. -/
def Quiet (f : Forwarder) : Prop :=
  f.stopReturned = true → (∀ c ∈ f.connections, c = .ended) ∧ f.activeConnections = 0

/-- A `stop` that comes to return finds every connection at its end. -/
def EndedBefore (f : Forwarder) : Label → Prop
  | .returns => f.stopCalled = true → f.listening = false → f.stopReturned = false → ∀ c ∈ f.connections, c = .ended
  | _ => True

/-- Nothing moves in a forwarder whose connections are at their ends and whose loop is. -/
theorem step_of_ended {f f' : Forwarder} {l : Label} (hlistening : f.listening = false)
    (hended : ∀ c ∈ f.connections, c = .ended) (hstep : step f l = some f') :
    f'.connections = f.connections ∧ f'.activeConnections = f.activeConnections := by
  have hstage : ∀ {i : Nat} {stage : Stage}, f.connections[i]? = some stage → stage = .ended :=
    fun hget => hended _ (List.mem_of_getElem? hget)
  cases l with
  | accept result =>
    simp only [Forwarding.step, hlistening] at hstep
    cases hstep
  | begins i | finishes i =>
    simp only [Forwarding.step] at hstep
    split at hstep
    · rename_i hget
      cases hstage hget
    · cases hstep
  | connects i made =>
    simp only [Forwarding.step] at hstep
    split at hstep
    · rename_i hget
      cases hstage hget
    · cases hstep
  | stop | loopEnds | returns =>
    simp only [Forwarding.step] at hstep
    split at hstep <;> cases hstep
    exact ⟨rfl, rfl⟩

/-- A step to a stopped forwarder is its return, or starts in one. -/
theorem stopReturned_step {f f' : Forwarder} {l : Label} (hstep : step f l = some f') (h : f'.stopReturned = true) :
    f.stopReturned = true ∨ l = .returns := by
  cases l with
  | returns => exact .inr rfl
  | accept result =>
    simp only [Forwarding.step] at hstep
    split at hstep
    · cases result <;> cases hstep <;> exact .inl h
    · cases hstep
  | connects i made =>
    simp only [Forwarding.step] at hstep
    split at hstep
    · cases made <;> cases hstep <;> exact .inl h
    · cases hstep
  | begins i | finishes i | stop | loopEnds =>
    simp only [Forwarding.step] at hstep
    split at hstep <;> cases hstep
    exact .inl h

theorem endedBefore_iff {f : Forwarder} (hcounted : Counted f) (hquiet : Quiet f) (l : Label) :
    EndedBefore f l ↔ ∀ f', step f l = some f' → Quiet f' := by
  have hzero : (∀ c ∈ f.connections, c = .ended) → f.activeConnections = 0 := by
    intro hended
    rw [hcounted.active, List.countP_eq_zero]
    intro c hc
    rw [hended c hc]
    decide
  -- behind a return everything stays as it is
  have hlater : ∀ f', f.stopReturned = true → step f l = some f' → Quiet f' := by
    intro f' hreturned hstep _
    obtain ⟨hended, hactive⟩ := hquiet hreturned
    obtain ⟨hconnections, hsame⟩ := step_of_ended (hcounted.closed hreturned) hended hstep
    rw [hconnections, hsame]
    exact ⟨hended, hactive⟩
  by_cases hl : l = .returns
  · subst hl
    constructor
    · intro h f' hstep
      have hback := hstep
      simp only [Forwarding.step] at hstep
      split at hstep
      · rename_i hends
        have hended := h (by simpa using hends.1) (by simpa using hends.2.1) (by simpa using hends.2.2)
        cases hstep
        exact fun _ => ⟨hended, hzero hended⟩
      · cases hstep
    · intro h hstop hlistening hreturned
      have hstep : step f .returns = some { f with stopReturned := true } := by
        simp [Forwarding.step, hstop, hlistening, hreturned]
      exact (h _ hstep rfl).1
  · have hfree : EndedBefore f l := by
      cases l <;> first | exact trivial | exact absurd rfl hl
    refine ⟨fun _ f' hstep hreturned => ?_, fun _ => hfree⟩
    rcases stopReturned_step hstep hreturned with h | h
    · exact hlater f' h hstep hreturned
    · exact absurd h hl

/-- **When a stopped forwarder forwards nothing more**: in every run, exactly where each `stop` that returns finds the
connections at their own ends. -/
theorem stop_quiet_iff (labels : List Label) : Always step Quiet start labels ↔ Along step EndedBefore start labels :=
  Run.always_iff_along_of Counted Quiet (fun _ _ _ h hstep => h.step hstep)
    (fun _ l hcounted hquiet => endedBefore_iff hcounted hquiet l) labels counted_start (fun h => by cases h)

/-- **A connection that is open when the room is left stays open.** -/
theorem stopped_forwarder_forwards : ¬ ∀ labels, Always step Quiet start labels := by
  intro h
  have hlast := Run.always_last
    (h [.accept (.ok ()), .begins 0, .connects 0 true, .stop, .loopEnds, .returns]) rfl
  exact absurd (hlast rfl).2 (by decide)

/-! ### The life of the loop -/

/-- The loop runs, and the next connection that comes is spawned a task. -/
def Accepts (f : Forwarder) : Prop :=
  f.listening = true ∧ ∃ f', step f (.accept (.ok ())) = some f' ∧ f'.connections = f.connections ++ [.spawned]

theorem accepts_iff (f : Forwarder) : Accepts f ↔ f.listening = true := by
  refine ⟨And.left, fun h => ⟨h, { f with connections := f.connections ++ [.spawned] }, ?_, rfl⟩⟩
  simp only [Forwarding.step, h, if_true]

/-- What the forwarder makes of something that happens; what it does not wait for changes nothing. -/
def handle (f : Forwarder) (l : Label) : Forwarder := (step f l).getD f

/-- Before a stop the loop ends exactly with an accept that fails. -/
theorem handle_listening {f : Forwarder} {l : Label} (hl : l ≠ .stop) (hstop : f.stopCalled = false) :
    (handle f l).stopCalled = false ∧
      ((handle f l).listening = true ↔ f.listening = true ∧ ∀ error, l ≠ .accept (.error error)) := by
  unfold handle
  cases l with
  | stop => exact absurd rfl hl
  | accept result =>
    cases hlistening : f.listening with
    | false => simp [Forwarding.step, hlistening, hstop]
    | true =>
      cases result with
      | ok u => simp [Forwarding.step, hlistening, hstop]
      | error e => simp [Forwarding.step, hlistening, hstop]
  | begins i | finishes i =>
    simp only [Forwarding.step]
    split <;> simp [hstop]
  | connects i made =>
    simp only [Forwarding.step]
    split
    · cases made <;> simp [hstop]
    · simp [hstop]
  | loopEnds | returns => simp [Forwarding.step, hstop]

theorem listening_iff : ∀ {labels : List Label} {f : Forwarder}, .stop ∉ labels → f.stopCalled = false →
    ((labels.foldl handle f).listening = true ↔
      f.listening = true ∧ ∀ error, .accept (.error error) ∉ labels)
  | [], f, _, _ => by simp
  | l :: labels, f, hno, hstop => by
    have hl : l ≠ .stop := fun h => hno (h ▸ List.mem_cons_self)
    have hlabels : .stop ∉ labels := fun h => hno (List.mem_cons_of_mem _ h)
    obtain ⟨hnext, hstep⟩ := handle_listening hl hstop
    rw [List.foldl_cons, listening_iff hlabels hnext, hstep, and_assoc, ← forall_and]
    refine and_congr_right fun _ => forall_congr' fun error => ?_
    rw [List.mem_cons, not_or, ne_comm]

end Forwarding

/-! ## `ScaffoldingServer::run` -/

namespace ServerRun

structure ServerLoop where
  running : Bool
  clients : Nat -- in the join set
  context : ServerContext

inductive ClientEnd where
  | closed
  | failed (error : String)
  | panicked (error : String)

inductive ServerLabel where
  | accept (result : Except String Unit)
  | cleanup (now : Nat)
  -- the receiver of the signal changed, to a value, or its sender is gone
  | changed (value : Option Bool)
  | joined (result : ClientEnd)

def startLoop (context : ServerContext) : ServerLoop := ⟨true, 0, context⟩

/-- Behind the loop the clients are aborted, by hand or with the join set. -/
def ServerLoop.finish (s : ServerLoop) : ServerLoop := { s with running := false, clients := 0 }

def serverStep (s : ServerLoop) (l : ServerLabel) : Option ServerLoop :=
  if !s.running then none
  else match l with
    | .accept (.ok ()) => some { s with clients := s.clients + 1 }
    | .accept (.error _) => some s.finish -- `accepted?`
    | .cleanup now => some { s with context := s.context.removeStaleGuests now }
    | .changed value => some (if value.getD true then s.finish else s)
    -- whatever it is that the client ended with, it is logged
    | .joined _ => if 0 < s.clients then some { s with clients := s.clients - 1 } else none

def serverHandle (s : ServerLoop) (l : ServerLabel) : ServerLoop := (serverStep s l).getD s

/-- The loop runs, and the next connection that comes is a client of it. -/
def ServerAccepts (s : ServerLoop) : Prop :=
  s.running = true ∧ ∃ s', serverStep s (.accept (.ok ())) = some s' ∧ s'.clients = s.clients + 1

theorem serverAccepts_iff (s : ServerLoop) : ServerAccepts s ↔ s.running = true := by
  refine ⟨And.left, fun h => ⟨h, { s with clients := s.clients + 1 }, ?_, rfl⟩⟩
  simp [serverStep, h]

/-- A label that signals no end. -/
def Signals : ServerLabel → Prop
  | .changed value => value.getD true = true
  | _ => False

theorem serverHandle_running {s : ServerLoop} {l : ServerLabel} (hl : ¬ Signals l) :
    (serverHandle s l).running = true ↔ s.running = true ∧ ∀ error, l ≠ .accept (.error error) := by
  unfold serverHandle
  cases hrunning : s.running with
  | false => simp [serverStep, hrunning]
  | true =>
    cases l with
    | accept result => cases result <;> simp [serverStep, hrunning, ServerLoop.finish]
    | cleanup now => simp [serverStep, hrunning]
    | changed value =>
      have hkeeps : value.getD true = false := by simpa [Signals] using hl
      simp [serverStep, hrunning, hkeeps]
    | joined result =>
      by_cases hclients : 0 < s.clients <;> simp [serverStep, hrunning, hclients]

theorem running_iff : ∀ {labels : List ServerLabel} {s : ServerLoop}, (∀ l ∈ labels, ¬ Signals l) →
    ((labels.foldl serverHandle s).running = true ↔
      s.running = true ∧ ∀ error, .accept (.error error) ∉ labels)
  | [], s, _ => by simp
  | l :: labels, s, hno => by
    rw [List.foldl_cons, running_iff (fun x hx => hno x (List.mem_cons_of_mem _ hx)),
      serverHandle_running (hno l List.mem_cons_self), and_assoc, ← forall_and]
    refine and_congr_right fun _ => forall_congr' fun error => ?_
    rw [List.mem_cons, not_or, ne_comm]

/-- **When the accept loops live on**: whatever comes to them without a signal to end, in whatever order, they run and take
the next connection exactly as long as no accept has failed. -/
theorem loops_accept_iff (labels : List Forwarding.Label) (hlabels : .stop ∉ labels) (context : ServerContext)
    (serverLabels : List ServerLabel) (hserver : ∀ l ∈ serverLabels, ¬ Signals l) :
    (Forwarding.Accepts (labels.foldl Forwarding.handle Forwarding.start) ↔ ∀ error, .accept (.error error) ∉ labels) ∧
      (ServerAccepts (serverLabels.foldl serverHandle (startLoop context)) ↔
        ∀ error, .accept (.error error) ∉ serverLabels) := by
  rw [Forwarding.accepts_iff, Forwarding.listening_iff hlabels rfl, serverAccepts_iff, running_iff hserver]
  exact ⟨and_iff_right rfl, and_iff_right rfl⟩

/-- **One accept that fails ends both loops**, also where the next connection would be fine. -/
theorem failed_accept_ends_loops : ¬ ∀ (labels : List Forwarding.Label) (context : ServerContext)
    (serverLabels : List ServerLabel), .stop ∉ labels → (∀ l ∈ serverLabels, ¬ Signals l) →
      Forwarding.Accepts (labels.foldl Forwarding.handle Forwarding.start) ∧
        ServerAccepts (serverLabels.foldl serverHandle (startLoop context)) := by
  intro h
  obtain ⟨hforward, -⟩ := h [.accept (.error "Too many open files (os error 24)")] ⟨25565, "m-1", []⟩ [] (by simp) (by simp)
  exact absurd hforward.1 (by decide)

/-- Loops in which a connection came and went, and nothing failed. -/
theorem calm_loops_accept :
    Forwarding.Accepts ([.accept (.ok ()), .begins 0, .connects 0 false].foldl Forwarding.handle Forwarding.start) ∧
      ServerAccepts ([.accept (.ok ()), .cleanup 5, .joined .closed].foldl serverHandle
        (startLoop ⟨25565, "m-1", []⟩)) := by
  have hiff := loops_accept_iff [.accept (.ok ()), .begins 0, .connects 0 false] (by simp) ⟨25565, "m-1", []⟩
    [.accept (.ok ()), .cleanup 5, .joined .closed] (by simp [Signals])
  exact ⟨hiff.1.2 (by simp), hiff.2.2 (by simp)⟩

end ServerRun

end Terracotta
