import Terracotta.Effects
/-!
# After a leave

A leave that ends with the controller in `Idle` has dropped the poll loop, the recovery intent and the pending create,
so nothing that comes to the gate later opens the room again: a queued refresh looks at the snapshot, a queued recovery
at the intent.  What already waited for the gate looked at them before the leave, and goes on with what it saw.
-/
namespace Terracotta

open TerracottaController

def Effect.quiet : Effect → Bool
  | .launched | .createCalled => false
  | .sent request _ => !request.opens
  | .answered _ _ _ _ => true

def Op.harmless : Op → Bool
  | .leave | .diagnose _ => true
  | _ => false

namespace Sys

/-- The step is the end of a `LeaveAsync` call. -/
def LeaveEnds (s : Sys) (l : Label) (t : Sys) : Prop :=
  t.controller.gate = none ∧
    ((∃ await, s.controller.gate = some await ∧ await.leaves = true) ∨
      ∃ i scene, l = .enter i scene ∧ s.controller.waiting[i]? = some .leave)

/-- The condition: neither a refresh nor a recovery, nor a create or a join, waits for the gate, and the published
snapshot shows no room. -/
def NothingBehind (t : Sys) : Prop :=
  t.controller.snapshot.state.live = false ∧ ∀ op ∈ t.controller.waiting, op.harmless = true

def NoResume (c : TerracottaController) : Prop := ∀ request, .resumeCreate request ∉ c.queued

/-- The calls of `CreateAsync` and `JoinAsync` that no callback made. -/
def OpensRoom : Label → Prop
  | .create _ | .join _ => True
  | _ => False

/-! ## While a leave holds the gate -/

/-- What a leave drops stays dropped as long as it holds the gate. -/
def Forgets (c : TerracottaController) : Prop :=
  ∀ await, c.gate = some await → await.leaves = true → c.recovery = none ∧ c.pendingCreate = none

theorem step_forgets {host : Host} {s t : Sys} {l : Label} (hs : Forgets s.controller) (h : step host s l = some t) :
    Forgets t.controller := by
  intro await hgate hl
  cases step_leaves h hgate hl with
  | aside ha hbefore =>
    obtain ⟨hr, hp⟩ := hs await hbefore hl
    exact ⟨ha.recovery.trans hr, ha.pending.trans hp⟩
  | enters d piece he hpiece hc =>
    rw [hc]
    cases he <;> cases hpiece <;> exact ⟨rfl, rfl⟩
  | getsOn p hbefore _ hc =>
    rw [hc]
    exact hs _ hbefore rfl

/-! ## After it -/

/-- A controller that was left, and that nothing behind the gate can bring back. -/
structure Left (c : TerracottaController) : Prop where
  gate : c.gate = none ∨ c.gate = some (.stopping .leaveWaiting)
  machine : c.stateMachine.ended = true
  snapshot : c.snapshot.state.live = false
  recovery : c.recovery = none
  pending : c.pendingCreate = none
  waiting : ∀ op ∈ c.waiting, op.harmless = true

theorem left_aside {l : Label} {c c' : TerracottaController} (hc : Left c) (ha : Aside l c c') (hl : ¬ OpensCall c l) :
    Left c' where
  gate := by rw [ha.gate]; exact hc.gate
  machine := by
    rcases ha.settled with hm | hm
    · rw [hm]; exact hc.machine
    · exact TerracottaRoomState.ended_of_closed (ha.closed (TerracottaRoomState.closed_of_ended hc.machine)) hm
  snapshot := ha.live hc.recovery hc.snapshot
  recovery := ha.recovery.trans hc.recovery
  pending := ha.pending.trans hc.pending
  waiting op hop := by
    rcases ha.waiting op hop with h | h
    · exact hc.waiting op h
    · cases op with
      | create request => exact absurd h hl
      | join request code => exact absurd h hl
      | leave => rfl
      | refresh poll => exact absurd h (by rw [Calls, hc.snapshot]; exact Bool.false_ne_true)
      | diagnose command => rfl
      | recover intent => exact absurd h (by rw [Calls, hc.recovery]; exact Bool.false_ne_true)

theorem left_fault {c : TerracottaController} (hc : Left c) (host : Host) (e : Exn) (failed : List Exn) :
    Left { c.fault host e with gate := none, failedCommands := failed } := by
  rw [fault, publishFault_eq]
  exact ⟨.inl rfl, rfl, rfl, hc.recovery, hc.pending, hc.waiting⟩

theorem left_released {c : TerracottaController} (hc : Left c) : Left { c with gate := none } :=
  ⟨.inl rfl, hc.machine, hc.snapshot, hc.recovery, hc.pending, hc.waiting⟩

theorem left_thrown {c : TerracottaController} (hc : Left c) (host : Host) (e : Exn) :
    Left (TerracottaController.resume host .faults (c, .threw e)) := by
  simp only [TerracottaController.resume, caught]
  split
  · exact left_released hc
  · exact left_fault hc host e _

theorem left_leaveEnter {c : TerracottaController} (hc : Left c) (host : Host) :
    Left (TerracottaController.resume host .faults c.leaveEnter) := by
  have hw : ∀ op ∈ c.forgotten.waiting, op.harmless = true := fun op hop =>
    hc.waiting op (mem_stopStatusPolling_waiting hop)
  have hm : c.forgotten.stateMachine.ended = true := by rw [forgotten_stateMachine]; exact hc.machine
  have h := leaveEnter_enters c
  generalize c.leaveEnter = piece at h
  cases h with
  | idle h =>
    exact ⟨.inl rfl, hm, (forgotten_snapshot c).symm ▸ hc.snapshot, rfl, rfl, hw⟩
  | stops h => exact ⟨.inr rfl, rfl, rfl, rfl, rfl, hw⟩
  | calls h => rw [TerracottaRoomState.not_inRoom_of_ended hm] at h; cases h
  | stuck h e he => rw [h] at hm; cases hm

theorem left_diagnoseEnter {c : TerracottaController} (hc : Left c) (host : Host) (command : Bool) :
    Left (TerracottaController.resume host (.diagnose command) (c.diagnoseEnter command)) := by
  have hd : c.diagnoseEnter command =
      (c, .threw (.other "Network diagnostics require an active Terracotta room.")) := by
    rw [diagnoseEnter, if_pos (by rw [hc.snapshot]; rfl)]
  rw [hd]
  exact left_fault hc host _ _

/-- **One step leaves a left controller left**, unless a create or a join is called. -/
theorem step_left {host : Host} {s t : Sys} {l : Label} (hs : Left s.controller) (hl : ¬ OpensCall s.controller l)
    (h : step host s l = some t) : Left t.controller := by
  cases step_turns h with
  | aside _ ha => exact left_aside hs ha hl
  | enters i scene op _ hgate hop hc =>
    have hharmless := hs.waiting op (List.mem_of_getElem? hop)
    have hrest : Left { s.controller with waiting := s.controller.waiting.eraseIdx i } :=
      ⟨hs.gate, hs.machine, hs.snapshot, hs.recovery, hs.pending, fun op h => hs.waiting op (List.mem_of_mem_eraseIdx h)⟩
    rw [hc]
    cases op with
    | leave => exact left_leaveEnter hrest host
    | diagnose command => exact left_diagnoseEnter hrest host command
    | _ => cases hharmless
  | getsOn call p q hgate _ hc =>
    rcases hs.gate with hg | hg <;> rw [hg] at hgate <;> cases hgate
  | goesOn await piece hgate hpiece hc =>
    rcases hs.gate with hg | hg <;> rw [hg] at hgate <;> cases hgate
    rw [hc]
    cases hpiece with
    | thrown _ e _ => exact left_thrown hs host e
    | stopped stop _ => exact left_released hs

theorem left_quiet {s t : Sys} {l : Label} {e : Effect} (hs : Left s.controller) (h : Emits s l t e) :
    e.quiet = true := by
  have hno : ∀ call p, s.controller.gate ≠ some (.calling call p) := fun call p hcall => by
    rcases hs.gate with hg | hg <;> rw [hg] at hcall <;> cases hcall
  cases e with
  | launched => obtain ⟨call, hg⟩ := h; exact absurd hg (hno _ _)
  | createCalled =>
    obtain ⟨i, scene, request, _, _, _, _, hop, _⟩ := h
    exact absurd (hs.waiting _ (List.mem_of_getElem? hop)) Bool.false_ne_true
  | sent request room => obtain ⟨call, client, hg, _⟩ := h; exact absurd hg (hno _ _)
  | answered request room answers response => rfl

theorem step_quiet {host : Host} {s t : Sys} {l : Label} (hs : Left s.controller) (h : step host s l = some t) :
    ∃ effects, t.log = s.log ++ effects ∧ ∀ e ∈ effects, e.quiet = true := by
  rcases step_log h with hlog | ⟨e, hlog, he⟩
  · exact ⟨[], by rw [hlog, List.append_nil], fun _ h => by cases h⟩
  · refine ⟨[e], hlog, fun e' h => ?_⟩
    rw [List.mem_singleton] at h
    exact h ▸ left_quiet hs he

theorem step_noResume {host : Host} {s t : Sys} {l : Label} (hs : Left s.controller) (hq : NoResume s.controller)
    (h : step host s l = some t) : NoResume t.controller := by
  intro request hmem
  have hwithin : Within s.controller t.controller → False := fun hw => hq request (hw.queued ▸ hmem)
  cases step_turns h with
  | aside _ ha =>
    rcases ha.queued request hmem with h | h
    · exact hq request h
    · rw [hs.pending] at h; cases h
  | enters i scene op _ _ _ hc =>
    have hpiece := enter_within host scene { s.controller with waiting := s.controller.waiting.eraseIdx i } op
    have hw := resume_within host (.ofOp op) hpiece
    exact hq request (hw.queued ▸ hc ▸ hmem)
  | getsOn call p q _ _ hc => exact hwithin (hc ▸ within_of_eq rfl rfl)
  | goesOn await piece _ hpiece hc => exact hwithin (hc ▸ resume_within host _ (piece_within hpiece))

theorem not_opensCall_of_noResume {c : TerracottaController} (hq : NoResume c) {l : Label} (hl : ¬ OpensRoom l) :
    ¬ OpensCall c l := by
  intro h
  cases l with
  | create request => exact hl trivial
  | join request => exact hl trivial
  | begin i =>
    obtain ⟨request, hi⟩ := h
    exact hq request (List.mem_of_getElem? hi)
  | _ => cases h

/-! ## When it ends -/

def Dropped (c : TerracottaController) : Prop := c.recovery = none ∧ c.pendingCreate = none

theorem dropped_thrown {c : TerracottaController} (hc : Dropped c) (host : Host) (e : Exn) :
    Dropped (TerracottaController.resume host .faults (c, .threw e)) := by
  simp only [TerracottaController.resume, caught]
  split
  · exact hc
  · rw [fault, publishFault_eq]
    exact hc

theorem dropped_leaveEnter (host : Host) (c : TerracottaController) :
    Dropped (TerracottaController.resume host .faults c.leaveEnter) := by
  have h := leaveEnter_enters c
  generalize c.leaveEnter = piece at h
  cases h with
  | idle h => exact ⟨rfl, rfl⟩
  | stops h => exact ⟨rfl, rfl⟩
  | calls h => exact ⟨rfl, rfl⟩
  | stuck h e he => exact dropped_thrown ⟨rfl, rfl⟩ host e

theorem dropped_leaveStopped {c : TerracottaController} (hc : Dropped c) (host : Host) :
    Dropped (TerracottaController.resume host .faults c.leaveStopped) := by
  unfold leaveStopped
  split
  · exact dropped_thrown hc host _
  · rename_i d hd
    obtain ⟨rfl, -⟩ := transitionTo_ok hd
    exact hc

theorem dropped_of_leaveEnds {host : Host} {s t : Sys} {l : Label} (hs : Forgets s.controller)
    (h : step host s l = some t) (hends : LeaveEnds s l t) : Dropped t.controller := by
  obtain ⟨hfree, ⟨await, hgate, hleaves⟩ | ⟨i, scene, rfl, hop⟩⟩ := hends
  · have hdropped : Dropped s.controller := hs await hgate hleaves
    have hheld : ∀ a, t.controller.gate ≠ some a := fun a ha => by rw [hfree] at ha; cases ha
    have hthrown : ∀ e, Dropped (TerracottaController.resume host (.ofAwait await) (s.controller, .threw e)) := fun e => by
      have hhandler : Handler.ofAwait await = .faults := by
        unfold Await.leaves at hleaves
        split at hleaves <;> first | rfl | cases hleaves
      rw [hhandler]
      exact dropped_thrown hdropped host e
    cases step_turns h with
    | aside _ ha => exact absurd (ha.gate.trans hgate) (hheld _)
    | enters _ _ _ _ hnone _ _ => rw [hgate] at hnone; cases hnone
    | getsOn call p q _ _ hc => exact absurd (by rw [hc]) (hheld _)
    | goesOn await' piece hgate' hpiece hc =>
      cases hgate.symm.trans hgate'
      rw [hc]
      cases hpiece with
      | thrown _ e _ => exact hthrown e
      | refused _ _ _ e _ => exact hthrown e
      | answered call client id response =>
        cases call <;> cases hleaves
        exact absurd (by rw [hc]; rfl) (hheld (.stopping .leaveRoom))
      | stopped stop _ =>
        cases stop with
        | leaveWaiting => exact hdropped
        | leaveRoom => exact dropped_leaveStopped hdropped host
        | recover intent => cases hleaves
      | saved copies => cases hleaves
      | copied => cases hleaves
  · simp only [step] at h
    split at h
    · rename_i op hnone hop'
      cases hop.symm.trans hop'
      cases h
      exact dropped_leaveEnter host _
    · cases h

theorem left_of_leaveEnds {host : Host} {s t : Sys} {l : Label} (hs : Forgets s.controller)
    (h : step host s l = some t) (hends : LeaveEnds s l t) (hidle : t.controller.stateMachine = .idle)
    (hfree : NothingBehind t) : Left t.controller := by
  obtain ⟨hr, hp⟩ := dropped_of_leaveEnds hs h hends
  exact ⟨.inl hends.1, by rw [hidle]; rfl, hfree.1, hr, hp, hfree.2⟩

instance : ∀ task : Option Task, Decidable (∃ request, task = some (.resumeCreate request))
  | some (.resumeCreate request) => .isTrue ⟨request, rfl⟩
  | none | some .loadSettings | some .refresh | some .leave | some .recover => .isFalse nofun

def decideOpensCall (c : TerracottaController) : Label.Decider (OpensCall c) where
  begin i := inferInstanceAs (Decidable (∃ request, c.queued[i]? = some (.resumeCreate request)))

instance (c : TerracottaController) (l : Label) : Decidable (OpensCall c l) := (decideOpensCall c).at l

end Sys

open Sys in
/-- **A room that was left stays left**: when a leave ends with the controller in `Idle` and nothing behind the gate, no
Helper is started and no room is opened until a create or a join is called.  A create that a callback queued before is
such a call when it begins; where none is queued, only the calls from outside count. -/
theorem left_room_stays_left (host : Host) (before after : List Label) (l : Label) (s t u : Sys)
    (hbefore : Run.run (step host) init before = some s) (hstep : step host s l = some t) (hends : LeaveEnds s l t)
    (hidle : t.controller.stateMachine = .idle) (hfree : NothingBehind t)
    (hafter : Run.run (step host) t after = some u)
    (hcalls : Run.Along (step host) (fun s l => ¬ OpensCall s.controller l) t after ∨
      NoResume t.controller ∧ Run.Along (step host) (fun _ l => ¬ OpensRoom l) t after) :
    ∃ effects, u.log = t.log ++ effects ∧ ∀ e ∈ effects, e.quiet = true := by
  have hforgets : Forgets s.controller :=
    Run.invariant_all (fun s => Forgets s.controller) (fun s l t hs h => step_forgets hs h)
      (fun await h => by cases h) hbefore
  have hleft : Left t.controller := left_of_leaveEnds hforgets hstep hends hidle hfree
  rcases hcalls with hcalls | ⟨hresume, hcalls⟩
  · exact Run.grows Sys.log (fun s => Left s.controller) (fun e => e.quiet = true)
      (fun s l t hs hl h => ⟨step_left hs hl h, step_quiet hs h⟩) hleft hcalls hafter
  · refine Run.grows Sys.log (fun s => Left s.controller ∧ NoResume s.controller) (fun e => e.quiet = true)
      (fun s l t hs hl h => ?_) ⟨hleft, hresume⟩ hcalls hafter
    have hno := not_opensCall_of_noResume hs.2 hl
    exact ⟨⟨step_left hs.1 hno h, step_noResume hs.1 hs.2 h⟩, step_quiet hs.1 h⟩

/-- A room is created and left, up to the stop of its Helper; what the others call meanwhile waits behind the leave. -/
def leaveRoom (meanwhile : List Label) : List Label :=
  createRoom ++ [.leave] ++ meanwhile ++
    [.enter 0 sampleScene, .clientReady, .send "b", .handle willingBackend, .deliver]

open Sys in
theorem diagnose_after_leave_starts_nothing :
    ∃ s t u, Run.run (step sampleHost) init (leaveRoom []) = some s ∧ step sampleHost s .stopped = some t ∧
      Run.run (step sampleHost) t [.refresh, .diagnose false, .enter 0 sampleScene] = some u ∧
      ∃ effects, u.log = t.log ++ effects ∧ ∀ e ∈ effects, e.quiet = true := by
  have hall : ∀ s ∈ Run.run (step sampleHost) init (leaveRoom []),
      s.controller.gate = some (.stopping .leaveRoom) ∧ (step sampleHost s .stopped).isSome = true ∧
      ∀ t ∈ step sampleHost s .stopped, t.controller.gate = none ∧ t.controller.stateMachine = .idle ∧
        t.controller.snapshot.state.live = false ∧ t.controller.waiting = [] ∧
        (Run.run (step sampleHost) t [.refresh, .diagnose false, .enter 0 sampleScene]).isSome = true ∧
        Run.Along (step sampleHost) (fun s l => ¬ OpensCall s.controller l) t
          [.refresh, .diagnose false, .enter 0 sampleScene] := by
    decide
  cases hs : Run.run (step sampleHost) init (leaveRoom []) with
  | none => exact absurd hs (by decide)
  | some s =>
    obtain ⟨hgate, hsome, hstopped⟩ := hall s hs
    obtain ⟨t, ht⟩ := Option.isSome_iff_exists.1 hsome
    obtain ⟨hfree, hidle, hlive, hwaiting, hrun, hcalls⟩ := hstopped t ht
    obtain ⟨u, hu⟩ := Option.isSome_iff_exists.1 hrun
    refine ⟨s, t, u, rfl, ht, hu, ?_⟩
    refine left_room_stays_left sampleHost (leaveRoom []) [.refresh, .diagnose false, .enter 0 sampleScene] .stopped
      s t u hs ht ⟨hfree, .inl ⟨_, hgate, rfl⟩⟩ hidle ⟨hlive, ?_⟩ hu (.inl hcalls)
    rw [hwaiting]
    exact fun _ h => by cases h

open Sys in
/-- **A refresh that waited behind the leave starts a Helper again**: it looked at the snapshot before the room was
left. -/
theorem refresh_behind_leave_starts_helper :
    ∃ s t u, Run.run (step sampleHost) init (leaveRoom [.refresh]) = some s ∧ step sampleHost s .stopped = some t ∧
      LeaveEnds s .stopped t ∧ t.controller.stateMachine = .idle ∧ t.controller.snapshot.state = .idle ∧
      Run.run (step sampleHost) t [.enter 0 sampleScene, .clientReady] = some u ∧
      Run.Along (step sampleHost) (fun s l => ¬ OpensCall s.controller l) t [.enter 0 sampleScene, .clientReady] ∧
      ¬ ∃ effects, u.log = t.log ++ effects ∧ ∀ e ∈ effects, e.quiet = true := by
  have hall : ∀ s ∈ Run.run (step sampleHost) init (leaveRoom [.refresh]),
      s.controller.gate = some (.stopping .leaveRoom) ∧ (step sampleHost s .stopped).isSome = true ∧
      ∀ t ∈ step sampleHost s .stopped, t.controller.gate = none ∧ t.controller.stateMachine = .idle ∧
        t.controller.snapshot.state = .idle ∧
        (Run.run (step sampleHost) t [.enter 0 sampleScene, .clientReady]).isSome = true ∧
        Run.Along (step sampleHost) (fun s l => ¬ OpensCall s.controller l) t [.enter 0 sampleScene, .clientReady] ∧
        ∀ u ∈ Run.run (step sampleHost) t [.enter 0 sampleScene, .clientReady],
          (u.log.drop t.log.length).all Effect.quiet = false := by
    decide
  cases hs : Run.run (step sampleHost) init (leaveRoom [.refresh]) with
  | none => exact absurd hs (by decide)
  | some s =>
    obtain ⟨hgate, hsome, hstopped⟩ := hall s hs
    obtain ⟨t, ht⟩ := Option.isSome_iff_exists.1 hsome
    obtain ⟨hfree, hidle, hsnapshot, hrun, hcalls, hlog⟩ := hstopped t ht
    obtain ⟨u, hu⟩ := Option.isSome_iff_exists.1 hrun
    refine ⟨s, t, u, rfl, ht, ⟨hfree, .inl ⟨_, hgate, rfl⟩⟩, hidle, hsnapshot, hu, hcalls, ?_⟩
    rintro ⟨effects, heffects, hquiet⟩
    have hloud := hlog u hu
    rw [heffects, List.drop_left, ← Bool.not_eq_true, List.all_eq_true] at hloud
    exact hloud hquiet

end Terracotta
