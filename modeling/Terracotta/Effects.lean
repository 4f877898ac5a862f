import Terracotta.Steps
/-!
# What a step adds to the log, and what a piece leaves behind

A step emits at most one effect, and each kind of effect comes from one place: a Helper is launched by a gateway call
without a client, a request is sent by a call with one, the Helper answers the head of its inbox.  A piece under the
gate queues no task and puts no operation behind the gate.
-/
namespace Terracotta

open TerracottaController

def Call.opens (call : Call) : Bool := call.request.opens

/-- The holder of the gate has opened the room and saves the selection or copies what was asked for. -/
def Await.opened : Await → Bool
  | .saving _ | .copying => true
  | _ => false

def Await.leaves : Await → Bool
  | .calling .leave _ | .stopping .leaveWaiting | .stopping .leaveRoom => true
  | _ => false

theorem readPayload_error {α : Type} {jsonMessage : String} {payload : Option α} {e : Exn}
    (h : readPayload jsonMessage payload = .error e) : e ≠ .canceled := by
  cases payload with
  | none => cases h; simp
  | some a => cases h

namespace Sys

/-! ## The log -/

/-- Where an effect comes from. -/
def Emits (s : Sys) (l : Label) (t : Sys) : Effect → Prop
  | .launched => ∃ call, s.controller.gate = some (.calling call .starting)
  | .createCalled => ∃ i scene request sessionId lanAddress, l = .enter i scene ∧ s.controller.gate = none ∧
      s.controller.waiting[i]? = some (.create request) ∧
      t.controller.gate = some (.calling (.create request sessionId lanAddress) .starting)
  | .sent request room => ∃ call client, s.controller.gate = some (.calling call (.initializing client)) ∧
      s.manager.client = some client ∧ request = call.request ∧ room = s.helper.room.state.state
  | .answered request room answers response => ∃ id rest, s.helper.inbox = (id, request) :: rest ∧
      room = s.helper.room.state.state ∧ response = (s.helper.room.handle id request answers).2

theorem diagnoseEnter_wait {c : TerracottaController} {command : Bool} {await : Await}
    (h : (c.diagnoseEnter command).2 = .wait await) :
    await = .calling (.diagnose c.stateMachine command) .starting := by
  unfold diagnoseEnter at h
  split at h
  · cases h
  · simp only at h
    split at h
    · split at h
      · cases h
      · cases h
        rfl
    · cases h
      rfl

theorem enter_create {host : Host} {scene : Scene} {c : TerracottaController} {request : TerracottaCreateRoomRequest}
    {sessionId lanAddress : String} {phase : CallPhase} : ∀ {op : Op},
      (c.enter host scene op).2 = .wait (.calling (.create request sessionId lanAddress) phase) → op = .create request
  | .create request', h => by
    have he := createEnter_enters host scene request' c
    change (c.createEnter host scene request').2 = _ at h
    generalize c.createEnter host scene request' = piece at he h
    cases he <;> cases h
    rfl
  | .join request' code, h => by
    have he := joinEnter_enters request' code c
    change (c.joinEnter request' code).2 = _ at h
    generalize c.joinEnter request' code = piece at he h
    cases he <;> cases h
  | .leave, h => by
    have he := leaveEnter_enters c
    change c.leaveEnter.2 = _ at h
    generalize c.leaveEnter = piece at he h
    cases he <;> cases h
  | .refresh poll, h => by cases h
  | .diagnose command, h => by cases diagnoseEnter_wait h
  | .recover intent, h => by cases h

/-- **A step adds at most one effect to the log.** -/
theorem step_log {host : Host} {s t : Sys} {l : Label} (h : step host s l = some t) :
    t.log = s.log ∨ ∃ e, t.log = s.log ++ [e] ∧ Emits s l t e := by
  cases l with
  | enter i scene =>
    simp only [step] at h
    split at h
    · rename_i op hgate hop
      cases h
      have hcreate := @enter_create host scene { s.controller with waiting := s.controller.waiting.eraseIdx i }
      generalize hpiece : { s.controller with waiting := s.controller.waiting.eraseIdx i }.enter host scene op = piece
      obtain ⟨c, outcome⟩ := piece
      show s.log ++ createCalls outcome = _ ∨ ∃ e, s.log ++ createCalls outcome = _ ∧ _
      by_cases hcalls : ∃ request sessionId lanAddress,
          outcome = .wait (.calling (.create request sessionId lanAddress) .starting)
      · obtain ⟨request, sessionId, lanAddress, rfl⟩ := hcalls
        have hop' : op = .create request := hcreate (by rw [hpiece])
        exact .inr ⟨.createCalled, rfl, i, scene, request, sessionId, lanAddress, rfl, hgate, by rw [hop, hop'], rfl⟩
      · left
        unfold createCalls
        split
        · rename_i r a b
          exact absurd ⟨r, a, b, rfl⟩ hcalls
        · exact List.append_nil _
    · cases h
  | clientReady =>
    simp only [step] at h
    split at h
    · rename_i call hgate
      cases h
      unfold ensureStarted
      split
      · exact .inl rfl
      · exact .inr ⟨.launched, rfl, call, hgate⟩
    · cases h
  | startFails launched outcome e =>
    simp only [step] at h
    split at h
    · rename_i call hgate hclient
      cases h
      cases launched
      · exact .inl rfl
      · exact .inr ⟨.launched, rfl, call, hgate⟩
    · cases h
  | send id =>
    simp only [step] at h
    split at h
    · rename_i call client hgate
      split at h
      · rename_i hclient
        cases h
        exact .inr ⟨_, rfl, call, client, hgate, hclient.1, rfl, rfl⟩
      · cases h
    · cases h
  | handle answers =>
    simp only [step] at h
    split at h
    · rename_i id request rest helper hinbox hhandle
      cases h
      exact .inr ⟨_, rfl, id, rest, hinbox, rfl, rfl⟩
    · cases h
  | create request | leave | restartHelper | join request | refresh | diagnose command | push sequence event
  | gameOutput sessionId text | launchEvent sessionId state => cases h; exact .inl rfl
  | begin i | settingsLoaded i settings | cancelWait i | stopped | stopFails outcome e | throws e | helperPoll refresh
  | processExit generation | processEnded i now | report i | restartStopped outcome | commandFailed i =>
    simp only [step] at h
    split at h <;> first | (cases h; exact .inl rfl) | cases h
  | deliver =>
    simp only [step] at h
    split at h
    · split at h
      · cases h
      · cases h; exact .inl rfl
    · cases h
  | written =>
    simp only [step] at h
    split at h <;> first | (cases h; exact .inl rfl) | cases h
  | pollTick =>
    simp only [step, Option.map_eq_some_iff] at h
    obtain ⟨c, -, rfl⟩ := h
    exact .inl rfl

/-! ## Pieces under the gate and the operations behind it -/

/-- No task is queued, and no operation is put behind the gate. -/
structure Within (c c' : TerracottaController) : Prop where
  queued : c'.queued = c.queued
  waiting : c'.waiting.Sublist c.waiting

section within

variable {c c' c'' : TerracottaController}

theorem within_of_eq (hq : c'.queued = c.queued) (hw : c'.waiting = c.waiting) : Within c c' :=
  ⟨hq, hw ▸ List.Sublist.refl _⟩

theorem Within.trans (h : Within c c') (h' : Within c' c'') : Within c c'' :=
  ⟨h'.queued.trans h.queued, h'.waiting.trans h.waiting⟩

theorem stopStatusPolling_within (c : TerracottaController) : Within c c.stopStatusPolling := by
  unfold stopStatusPolling
  split
  · exact within_of_eq rfl rfl
  · exact ⟨rfl, List.filter_sublist⟩

theorem transitionTo_within {next : TerracottaRoomState} (h : c.transitionTo next = .ok c') : Within c c' := by
  obtain ⟨rfl, -⟩ := transitionTo_ok h
  exact within_of_eq rfl rfl

theorem caught_within (host : Host) (e : Exn) (c : TerracottaController) (handler : Handler) :
    Within c (c.caught host e handler) := by
  cases handler with
  | faults | diagnose command | recover =>
    simp only [caught]
    split
    · exact within_of_eq rfl rfl
    · exact within_of_eq (by simp [fault, publishFault_eq]) (by simp [fault, publishFault_eq])
  | refresh poll =>
    simp only [caught]
    split <;> exact within_of_eq rfl rfl

theorem resume_within (host : Host) (handler : Handler) {piece : TerracottaController × Outcome}
    (h : Within c piece.1) : Within c (TerracottaController.resume host handler piece) := by
  obtain ⟨d, await | _ | e⟩ := piece
  · exact h.trans (within_of_eq rfl rfl)
  · cases handler <;> exact h.trans (within_of_eq rfl rfl)
  · exact h.trans ((caught_within host e d handler).trans (within_of_eq rfl rfl))

theorem enter_within (host : Host) (scene : Scene) (c : TerracottaController) :
    ∀ op, Within c (c.enter host scene op).1
  | .create request => by
    have h := createEnter_enters host scene request c
    show Within c (c.createEnter host scene request).1
    generalize c.createEnter host scene request = piece at h
    cases h <;> exact within_of_eq rfl rfl
  | .join request code => by
    have h := joinEnter_enters request code c
    show Within c (c.joinEnter request code).1
    generalize c.joinEnter request code = piece at h
    cases h <;> exact within_of_eq rfl rfl
  | .leave => by
    have h := leaveEnter_enters c
    have hforgotten : Within c c.forgotten := (stopStatusPolling_within c).trans (within_of_eq rfl rfl)
    show Within c c.leaveEnter.1
    generalize c.leaveEnter = piece at h
    cases h <;> exact hforgotten.trans (within_of_eq rfl rfl)
  | .refresh poll => within_of_eq rfl rfl
  | .diagnose command => by
    show Within c (c.diagnoseEnter command).1
    unfold diagnoseEnter
    split
    · exact within_of_eq rfl rfl
    · simp only
      split
      · split
        · exact within_of_eq rfl rfl
        · rename_i d hd
          exact (transitionTo_within hd).trans (within_of_eq rfl rfl)
      · exact within_of_eq rfl rfl
  | .recover intent => within_of_eq rfl rfl

theorem copy_within (host : Host) (copies : Copies) (c : TerracottaController) : Within c (c.copy host copies).1 :=
  within_of_eq rfl rfl

theorem startStatusPolling_within (c : TerracottaController) : Within c c.startStatusPolling :=
  (stopStatusPolling_within c).trans (within_of_eq rfl rfl)

theorem selectSession_within (c : TerracottaController) (sessionId : String) :
    Within c (c.startStatusPolling.selectSession sessionId) :=
  (startStatusPolling_within c).trans (within_of_eq rfl rfl)

theorem answered_within (host : Host) (c : TerracottaController) (response : Envelope) :
    ∀ call, Within c (c.answered host call response).1
  | .create request sessionId lanAddress => by
    simp only [answered]
    split
    · exact within_of_eq rfl rfl
    · unfold createConnected
      split
      · exact within_of_eq rfl rfl
      · rename_i d hd
        refine (transitionTo_within hd).trans (Within.trans ?_ (selectSession_within _ sessionId))
        exact within_of_eq rfl rfl
  | .join request code => by
    simp only [answered]
    split
    · exact within_of_eq rfl rfl
    · unfold joinConnected
      split
      · exact within_of_eq rfl rfl
      · rename_i d hd
        refine (transitionTo_within hd).trans ?_
        simp only
        split
        · refine Within.trans ?_ (selectSession_within _ _)
          exact within_of_eq rfl rfl
        · refine Within.trans ?_ (startStatusPolling_within _)
          exact within_of_eq rfl rfl
  | .leave => within_of_eq rfl rfl
  | .refresh poll => by
    simp only [answered]
    split
    · exact within_of_eq rfl rfl
    · unfold refreshAnswered
      split
      · exact within_of_eq rfl rfl
      split
      · simp only
        split
        · exact stopStatusPolling_within c
        · rename_i d hd
          exact (stopStatusPolling_within c).trans ((transitionTo_within hd).trans (within_of_eq rfl rfl))
      · exact within_of_eq rfl rfl
  | .diagnose previous command => by
    simp only [answered]
    split
    · exact within_of_eq rfl rfl
    · unfold diagnoseAnswered
      split
      · exact within_of_eq rfl rfl
      · rename_i d hd
        split at hd
        · exact (transitionTo_within hd).trans (within_of_eq rfl rfl)
        · cases hd; exact within_of_eq rfl rfl
  | .recover request => by
    simp only [answered]
    split
    · exact within_of_eq rfl rfl
    · unfold recoverConnected
      split
      · exact within_of_eq rfl rfl
      · rename_i d hd
        have hd' : Within c d := by
          split at hd
          · exact transitionTo_within hd
          · cases hd; exact within_of_eq rfl rfl
        refine hd'.trans (Within.trans ?_ (startStatusPolling_within _))
        exact within_of_eq rfl rfl

theorem stopped_within (c : TerracottaController) : ∀ stop, Within c (c.stopped stop).1
  | .leaveWaiting => within_of_eq rfl rfl
  | .leaveRoom => by
    show Within c c.leaveStopped.1
    unfold leaveStopped
    split
    · exact within_of_eq rfl rfl
    · rename_i d hd
      exact (transitionTo_within hd).trans (within_of_eq rfl rfl)
  | .recover intent => by
    show Within c (c.recoverStopped intent).1
    unfold recoverStopped
    split
    · split
      · split <;> exact within_of_eq rfl rfl
      · exact within_of_eq rfl rfl
    · split
      · split <;> exact within_of_eq rfl rfl
      · exact within_of_eq rfl rfl

end within

/-- **A step under the gate queues nothing and calls nothing.** -/
theorem piece_within {host : Host} {s : Sys} {l : Label} {await : Await} {piece : TerracottaController × Outcome}
    (h : Piece host s l await piece) : Within s.controller piece.1 := by
  cases h with
  | thrown _ e _ => exact within_of_eq rfl rfl
  | refused _ _ _ e _ => exact within_of_eq rfl rfl
  | answered call client id response => exact answered_within host _ response call
  | stopped stop _ => exact stopped_within _ stop
  | saved copies => exact copy_within host copies _
  | copied => exact within_of_eq rfl rfl

/-! ## How the gate comes to be with a leave -/

theorem resume_gate {host : Host} {handler : Handler} {piece : TerracottaController × Outcome} {await : Await}
    (h : (TerracottaController.resume host handler piece).gate = some await) :
    piece.2 = .wait await ∧ TerracottaController.resume host handler piece = { piece.1 with gate := some await } := by
  obtain ⟨c, await' | _ | e⟩ := piece
  · cases h; exact ⟨rfl, rfl⟩
  · cases handler <;> cases h
  · cases h

theorem enter_leaves {host : Host} {scene : Scene} {c : TerracottaController} {await : Await}
    (hl : await.leaves = true) : ∀ {op : Op}, (c.enter host scene op).2 = .wait await → op = .leave
  | .create request, h => by
    have he := createEnter_enters host scene request c
    change (c.createEnter host scene request).2 = _ at h
    generalize c.createEnter host scene request = piece at he h
    cases he <;> cases h
    cases hl
  | .join request code, h => by
    have he := joinEnter_enters request code c
    change (c.joinEnter request code).2 = _ at h
    generalize c.joinEnter request code = piece at he h
    cases he <;> cases h
    cases hl
  | .leave, h => rfl
  | .refresh poll, h => by cases h; cases hl
  | .diagnose command, h => by
    rw [diagnoseEnter_wait h] at hl
    cases hl
  | .recover intent, h => by cases h; cases hl

theorem copy_wait {host : Host} {copies : Copies} {c : TerracottaController} {await : Await}
    (h : (c.copy host copies).2 = .wait await) : await.opened = true := by
  have hany : ∀ wanted : Bool, (if wanted then Outcome.wait .copying else .done) = .wait await → await.opened = true := by
    intro wanted hw
    split at hw <;> cases hw
    rfl
  exact hany _ h

theorem answered_wait {host : Host} {c : TerracottaController} {response : Envelope} {await : Await} :
    ∀ {call : Call}, (c.answered host call response).2 = .wait await →
      await.opened = true ∨ call = .leave ∧ await = .stopping .leaveRoom
  | .create request sessionId lanAddress, h => by
    simp only [answered] at h
    split at h
    · cases h
    · unfold createConnected at h
      split at h <;> cases h
      exact .inl rfl
  | .join request code, h => by
    simp only [answered] at h
    split at h
    · cases h
    · unfold joinConnected at h
      split at h
      · cases h
      · simp only at h
        split at h
        · cases h; exact .inl rfl
        · exact .inl (copy_wait h)
  | .leave, h => by cases h; exact .inr ⟨rfl, rfl⟩
  | .refresh poll, h => by
    simp only [answered] at h
    split at h
    · cases h
    · unfold refreshAnswered at h
      split at h
      · cases h
      split at h
      · simp only at h
        split at h <;> cases h
      · cases h
  | .diagnose previous command, h => by
    simp only [answered] at h
    split at h
    · cases h
    · unfold diagnoseAnswered at h
      split at h <;> cases h
  | .recover request, h => by
    simp only [answered] at h
    split at h
    · cases h
    · unfold recoverConnected at h
      split at h <;> cases h

theorem not_leaves_of_opened {await : Await} (h : await.opened = true) : await.leaves = false := by
  cases await <;> first | rfl | cases h

theorem stopped_leaves {c : TerracottaController} {await : Await} : ∀ {stop : Stopping},
    (c.stopped stop).2 = .wait await → await.leaves = false
  | .leaveWaiting, h => by cases h
  | .leaveRoom, h => by
    change c.leaveStopped.2 = _ at h
    unfold leaveStopped at h
    split at h <;> cases h
  | .recover intent, h => by
    change (c.recoverStopped intent).2 = _ at h
    unfold recoverStopped at h
    split at h
    · split at h
      · split at h <;> cases h
        rfl
      · cases h
    · split at h
      · split at h <;> cases h
        rfl
      · cases h

/-- How the gate comes to be with a leave: it was, beside the step; a leave enters; or its gateway call gets on. -/
inductive LeavesGate (host : Host) (s : Sys) (l : Label) (c' : TerracottaController) (await : Await) : Prop
  | aside (h : Aside l s.controller c') (hgate : s.controller.gate = some await)
  | enters (d : TerracottaController) (piece : TerracottaController × Outcome) (h : LeaveEnters d.forgotten piece)
      (hpiece : piece.2 = .wait await) (hc : c' = { piece.1 with gate := some await })
  | getsOn (p : CallPhase) (hgate : s.controller.gate = some (.calling .leave p))
      (hawait : await ≠ .stopping .leaveWaiting) (hc : c' = { s.controller with gate := some await })

theorem step_leaves {host : Host} {s t : Sys} {l : Label} {await : Await} (h : step host s l = some t)
    (hgate : t.controller.gate = some await) (hl : await.leaves = true) :
    LeavesGate host s l t.controller await := by
  cases step_turns h with
  | aside _ ha => exact .aside ha (ha.gate ▸ hgate)
  | enters i scene op _ _ _ hc =>
    rw [hc] at hgate ⊢
    obtain ⟨hwait, hresume⟩ := resume_gate hgate
    obtain rfl := enter_leaves hl hwait
    exact .enters _ _ (leaveEnter_enters _) hwait hresume
  | getsOn call p q hcall _ hc =>
    rw [hc] at hgate
    cases hgate
    cases call <;> cases hl
    exact .getsOn p hcall Await.noConfusion hc
  | goesOn await' piece hbefore hpiece hc =>
    rw [hc] at hgate ⊢
    obtain ⟨hwait, hresume⟩ := resume_gate hgate
    cases hpiece with
    | thrown _ e _ => cases hwait
    | refused _ _ _ e _ => cases hwait
    | answered call client id response =>
      rcases answered_wait hwait with hopened | ⟨rfl, rfl⟩
      · rw [not_leaves_of_opened hopened] at hl; cases hl
      · exact .getsOn _ hbefore (fun h => by cases h) hresume
    | stopped stop _ => rw [stopped_leaves hwait] at hl; cases hl
    | saved copies => rw [not_leaves_of_opened (copy_wait hwait)] at hl; cases hl
    | copied => cases hwait

end Sys

end Terracotta
