import Terracotta.Effects
/-!
# Which room the Helper has when a room is opened

The plugin's machine and the Helper's room are two state machines with a way out of a fault each: `ResetFaultIfNeeded`
resets the plugin's alone, the Helper's takes a leave or a new Helper.  As long as a create or a join that finds the
plugin faulted also finds the Helper without a room, every request to open a room reaches an idle Helper.
-/
namespace Terracotta

open TerracottaController

/-! ## An idle room service -/

def RoomError.isBusy (error : RoomError) : Bool := error.code = "room.operation-in-progress"

theorem pollAndEmit_idle {svc : RoomService} (h : svc.state.state = .idle) (refresh : Except RoomError BackendRefresh) :
    svc.pollAndEmit refresh = svc := by
  cases refresh with
  | error _ => rfl
  | ok refresh =>
    simp only [RoomService.pollAndEmit]
    rw [if_neg (by rw [h]; decide)]

theorem handle_idle {svc : RoomService} (h : svc.state.state = .idle) (id : String) (answers : BackendAnswers) :
    ∀ {request : HelperRequest}, request.opens = false → (svc.handle id request answers).1.state.state = .idle
  | .leave, _ => by
    show (svc.leave answers.left).1.state.state = .idle
    unfold RoomService.leave
    rw [if_pos h]
    exact h
  | .status, _ => by
    show (svc.pollAndEmit answers.refresh).state.state = .idle
    rw [pollAndEmit_idle h]
    exact h
  | .diagnose, _ => by
    have hbegin : svc.diagnoseBegin =
        .error ⟨"room.not-connected", "Network diagnostics require an active room.", false⟩ := by
      rw [RoomService.diagnoseBegin, if_pos (by rw [h]; decide)]
    show (svc.diagnose answers.refresh answers.network).1.state.state = .idle
    rw [RoomService.diagnose, hbegin]
    exact h

theorem validateSessionId_error {value : String} {error : RoomError} (h : validateSessionId value = .error error) :
    error.isBusy = false := by
  unfold validateSessionId at h
  simp only at h
  split at h <;> cases h
  rfl

theorem validateLoopbackAddress_error {value : String} {error : RoomError}
    (h : validateLoopbackAddress value = .error error) : error.isBusy = false := by
  unfold validateLoopbackAddress at h
  split at h
  · cases h; rfl
  · split at h <;> cases h
    rfl

theorem normalizeRoomCode_error {value : String} {error : RoomError} (h : normalizeRoomCode value = .error error) :
    error.isBusy = false := by
  unfold normalizeRoomCode at h
  simp only at h
  split at h <;> cases h
  rfl

theorem validateOption_error {α β : Type} {check : α → Except RoomError β} {value : Option α} {error : RoomError}
    (hcheck : ∀ {a e}, check a = .error e → e.isBusy = false) (h : validateOption check value = .error error) :
    error.isBusy = false := by
  cases value with
  | none => cases h
  | some a =>
    simp only [validateOption] at h
    cases hc : check a with
    | ok b => rw [hc] at h; cases h
    | error e => rw [hc] at h; cases h; exact hcheck hc

theorem validateBackendRoom_error {room : BackendRoom} {require : Bool} {error : RoomError}
    (h : validateBackendRoom room require = .error error) : error.isBusy = false := by
  unfold validateBackendRoom at h
  simp only [bind, Except.bind, pure, Except.pure] at h
  split at h
  · rename_i e he
    cases h
    exact normalizeRoomCode_error he
  · split at h
    · rename_i e he
      cases h
      exact validateOption_error validateLoopbackAddress_error he
    · split at h <;> cases h
      rfl

theorem openFinish_error {svc : RoomService} {role : RoomRole} {gameSessionId : Option String} {require : Bool}
    {answer : Except RoomError BackendRoom} {error : RoomError}
    (h : (svc.openFinish role gameSessionId require answer).2 = .error error) (hbusy : error.isBusy = true) :
    answer = .error error := by
  unfold RoomService.openFinish at h
  split at h
  · rename_i e he
    cases h
    cases answer with
    | error e' => cases he; rfl
    | ok room => rw [validateBackendRoom_error he] at hbusy; cases hbusy
  · cases h

theorem createBegin_error {svc : RoomService} {request : CreateRoomRequest} {error : RoomError}
    (hidle : svc.state.state = .idle) (h : svc.createBegin request = .error error) : error.isBusy = false := by
  unfold RoomService.createBegin at h
  simp only [bind, Except.bind, pure, Except.pure] at h
  split at h
  · rename_i e he
    cases h
    exact validateSessionId_error he
  · split at h
    · rename_i e he
      cases h
      exact validateLoopbackAddress_error he
    · rw [if_neg (not_not_intro hidle)] at h
      cases h

theorem joinBegin_error {svc : RoomService} {request : JoinRoomRequest} {error : RoomError}
    (hidle : svc.state.state = .idle) (h : svc.joinBegin request = .error error) : error.isBusy = false := by
  unfold RoomService.joinBegin at h
  simp only [bind, Except.bind, pure, Except.pure] at h
  split at h
  · rename_i e he
    cases h
    exact normalizeRoomCode_error he
  · split at h
    · rename_i e he
      cases h
      exact validateOption_error validateSessionId_error he
    · rw [if_neg (not_not_intro hidle)] at h
      cases h

def Envelope.rejectsBusy (response : Envelope) : Prop :=
  ∃ error : RoomError, response.messageType = "error" ∧ response.payload = error.toValue ∧ error.isBusy = true

theorem respond_rejectsBusy {α : Type} {id : String} {request : HelperRequest} {payload : α → Json.Value}
    {result : Except RoomError α} (h : (respond id request payload result).rejectsBusy) :
    ∃ error, result = .error error ∧ error.isBusy = true := by
  obtain ⟨error, htype, hpayload, hbusy⟩ := h
  cases result with
  | ok a =>
    have hno : request.responseType ≠ "error" := by
      cases request <;> simp [HelperRequest.responseType]
    exact absurd htype hno
  | error error' =>
    have hcode : error'.code = error.code := by
      simp only [respond, Envelope.response, RoomError.toValue, Json.Value.obj.injEq, List.cons.injEq, Prod.mk.injEq,
        Json.Value.str.injEq] at hpayload
      exact hpayload.1.2
    refine ⟨error', rfl, ?_⟩
    unfold RoomError.isBusy at hbusy ⊢
    rw [hcode]
    exact hbusy

/-- **An idle service does not reject a request to open a room**: where the response says `room.operation-in-progress`,
the network backend said so. -/
theorem handle_opens {svc : RoomService} (hidle : svc.state.state = .idle) {id : String} {answers : BackendAnswers} :
    ∀ {request : HelperRequest}, request.opens = true → (svc.handle id request answers).2.rejectsBusy →
      ∃ error, answers.room = .error error ∧ error.isBusy = true
  | .create body, _, h => by
    obtain ⟨error, hresult, hbusy⟩ := respond_rejectsBusy h
    split at hresult
    · rename_i e he
      cases hresult
      rw [createBegin_error hidle he] at hbusy
      cases hbusy
    · exact ⟨error, openFinish_error hresult hbusy, hbusy⟩
  | .join body, _, h => by
    obtain ⟨error, hresult, hbusy⟩ := respond_rejectsBusy h
    split at hresult
    · rename_i e he
      cases hresult
      rw [joinBegin_error hidle he] at hbusy
      cases hbusy
    · exact ⟨error, openFinish_error hresult hbusy, hbusy⟩

/-! ## A Helper without a room -/

/-- No room, and no request for one on its way. -/
def Helper.Vacated (h : Helper) : Prop := h.room.state.state = .idle ∧ ∀ entry ∈ h.inbox, entry.2.opens = false

/-- At most one request for a room is on its way, and then to an idle room. -/
def Helper.Single (h : Helper) : Prop :=
  h.inbox.countP (fun entry => entry.2.opens) ≤ 1 ∧
    ∀ entry ∈ h.inbox, entry.2.opens = true → h.room.state.state = .idle

namespace Sys

def Clean (s : Sys) : Prop := s.manager.client = none ∨ s.helper.Vacated

/-- **What a step can do to the Helper.** -/
inductive HelperMoves (s : Sys) (l : Label) (t : Sys) : Prop
  | same (hroom : t.helper.room = s.helper.room) (hinbox : t.helper.inbox = s.helper.inbox)
      (hclient : t.manager.client = s.manager.client ∨ t.manager.client = none)
  | launched (hhelper : t.helper = .launched)
  | received (id : String) (call : Call) (client : Nat) (hl : l = .send id)
      (hgate : s.controller.gate = some (.calling call (.initializing client))) (hclient : s.manager.client = some client)
      (hhelper : t.helper = s.helper.receive id call.request)
      (hcontroller : t.controller = { s.controller with gate := some (.calling call (.sent client id)) })
  | handled (id : String) (request : HelperRequest) (rest : List (String × HelperRequest)) (answers : BackendAnswers)
      (hinbox : s.helper.inbox = (id, request) :: rest) (hroom : t.helper.room = (s.helper.room.handle id request answers).1)
      (hrest : t.helper.inbox = rest) (hclient : t.manager.client = s.manager.client)
  | polled (refresh : Except RoomError BackendRefresh) (hroom : t.helper.room = s.helper.room.pollAndEmit refresh)
      (hinbox : t.helper.inbox = s.helper.inbox) (hclient : t.manager.client = s.manager.client)

theorem stopCore_client (m : HelperProcessManager) (outcome : StopOutcome) :
    (m.stopCore outcome).client = m.client ∨ (m.stopCore outcome).client = none := by
  cases outcome
  · exact .inr rfl
  · exact .inl rfl
  · exact .inr rfl

theorem step_helper {host : Host} {s t : Sys} {l : Label} (h : step host s l = some t) : HelperMoves s l t := by
  cases l with
  | create request | leave | restartHelper | join request | refresh | diagnose command | push sequence event
  | gameOutput sessionId text | launchEvent sessionId state => cases h; exact .same rfl rfl (.inl rfl)
  | begin i | settingsLoaded i settings | enter i scene | cancelWait i | written | throws e | report i
  | commandFailed i =>
    simp only [step] at h
    split at h <;> first | (cases h; exact .same rfl rfl (.inl rfl)) | cases h
  | clientReady =>
    simp only [step] at h
    split at h
    · cases h
      unfold ensureStarted
      split
      · exact .same rfl rfl (.inl rfl)
      · exact .launched rfl
    · cases h
  | startFails launched outcome e =>
    simp only [step] at h
    split at h
    · rename_i call hgate hclient
      cases h
      refine .same rfl rfl (.inr ?_)
      have hnone : (if launched then s.manager.launch else s.manager).client = none := by
        cases launched <;> exact hclient
      rcases stopCore_client (if launched then s.manager.launch else s.manager) outcome with hc | hc
      · exact hc.trans hnone
      · exact hc
    · cases h
  | send id =>
    simp only [step] at h
    split at h
    · rename_i call client hgate
      split at h
      · rename_i hsend
        cases h
        exact .received id call client rfl hgate hsend.1 rfl rfl
      · cases h
    · cases h
  | deliver =>
    simp only [step] at h
    split at h
    · split at h <;> first | (cases h; exact .same rfl rfl (.inl rfl)) | cases h
    · cases h
  | stopped =>
    simp only [step] at h
    split at h
    · cases h; exact .same rfl rfl (.inr rfl)
    · cases h
  | stopFails outcome e =>
    simp only [step] at h
    split at h
    · cases h; exact .same rfl rfl (stopCore_client _ _)
    · cases h
  | handle answers =>
    simp only [step] at h
    split at h
    · rename_i id request rest helper hinbox hhandle
      cases h
      unfold Helper.handle at hhandle
      rw [hinbox] at hhandle
      split at hhandle
      · rename_i id' request' rest' _ heq
        cases heq
        cases hhandle
        exact .handled id request rest answers hinbox rfl rfl rfl
      · cases hhandle
    · cases h
  | helperPoll refresh =>
    simp only [step] at h
    split at h
    · cases h; exact .polled refresh rfl rfl rfl
    · cases h
  | processExit generation =>
    simp only [step] at h
    split at h
    · cases h
      refine .same ?_ ?_ (.inl rfl)
      · show (if _ then _ else s.helper).room = _
        split <;> rfl
      · show (if _ then _ else s.helper).inbox = _
        split <;> rfl
    · cases h
  | processEnded i now =>
    simp only [step] at h
    split at h
    · cases h
    · rename_i generation hended
      cases h
      refine .same rfl rfl ?_
      show (s.manager.onProcessEnded generation now).client = _ ∨ (s.manager.onProcessEnded generation now).client = none
      unfold HelperProcessManager.onProcessEnded
      split
      · exact .inl rfl
      · simp only
        split
        · exact .inr rfl
        · refine .inr ?_
          unfold HelperProcessManager.countCrash
          split <;> rfl
  | pollTick =>
    simp only [step, Option.map_eq_some_iff] at h
    obtain ⟨c, -, rfl⟩ := h
    exact .same rfl rfl (.inl rfl)
  | restartStopped outcome =>
    simp only [step] at h
    split at h
    · cases h; exact .same rfl rfl (stopCore_client _ _)
    · cases h

def SendsOpen (s : Sys) (l : Label) : Prop :=
  ∃ id call client, l = .send id ∧ s.controller.gate = some (.calling call (.initializing client)) ∧ call.opens = true

/-- **A clean system stays clean** until a room is asked for. -/
theorem step_clean {host : Host} {s t : Sys} {l : Label} (hs : Clean s) (hno : ¬ SendsOpen s l)
    (h : step host s l = some t) : Clean t := by
  unfold Clean at hs ⊢
  cases step_helper h with
  | same hroom hinbox hclient =>
    unfold Helper.Vacated at hs ⊢
    rw [hroom, hinbox]
    rcases hs with hs | hs
    · rcases hclient with hc | hc
      · exact .inl (hc.trans hs)
      · exact .inl hc
    · exact .inr hs
  | launched hhelper =>
    rw [hhelper]
    exact .inr ⟨rfl, fun _ h => by cases h⟩
  | received id call client hl hgate hclient hhelper _ =>
    rcases hs with hs | hs
    · rw [hclient] at hs; cases hs
    · rw [hhelper]
      refine .inr ⟨hs.1, fun entry hentry => ?_⟩
      rcases List.mem_append.1 hentry with hentry | hentry
      · exact hs.2 entry hentry
      · rw [List.mem_singleton] at hentry
        rw [hentry]
        exact Bool.eq_false_iff.2 (fun hopens => hno ⟨id, call, client, hl, hgate, hopens⟩)
  | handled id request rest answers hinbox hroom hrest hclient =>
    rcases hs with hs | hs
    · exact .inl (hclient.trans hs)
    · obtain ⟨hidle, hinboxes⟩ := hs
      rw [hinbox] at hinboxes
      refine .inr ⟨?_, fun entry hentry => hinboxes entry (List.mem_cons_of_mem _ (hrest ▸ hentry))⟩
      rw [hroom]
      exact handle_idle hidle id answers (hinboxes _ List.mem_cons_self)
  | polled refresh hroom hinbox hclient =>
    rcases hs with hs | hs
    · exact .inl (hclient.trans hs)
    · refine .inr ⟨?_, hinbox ▸ hs.2⟩
      rw [hroom, pollAndEmit_idle hs.1]
      exact hs.1

/-- **At most one request for a room is on its way**, where every one is sent to a Helper without one. -/
theorem step_single {host : Host} {s t : Sys} {l : Label} (hs : s.helper.Single) (hsend : SendsOpen s l → Clean s)
    (h : step host s l = some t) : t.helper.Single := by
  obtain ⟨hcount, hidle⟩ := hs
  unfold Helper.Single
  cases step_helper h with
  | same hroom hinbox _ => rw [hroom, hinbox]; exact ⟨hcount, hidle⟩
  | launched hhelper => rw [hhelper]; exact ⟨Nat.zero_le 1, fun _ h => by cases h⟩
  | received id call client hl hgate hclient hhelper _ =>
    rw [hhelper]
    by_cases hopens : call.opens = true
    · -- the request finds a Helper without a room, so it is the only one
      rcases hsend ⟨id, call, client, hl, hgate, hopens⟩ with hclean | hclean
      · rw [hclient] at hclean; cases hclean
      · obtain ⟨hroom, hinbox⟩ := hclean
        have hzero : s.helper.inbox.countP (fun entry => entry.2.opens) = 0 := by
          rw [List.countP_eq_zero]
          intro entry hentry
          rw [hinbox entry hentry]
          exact Bool.false_ne_true
        refine ⟨?_, fun _ _ _ => hroom⟩
        show (s.helper.inbox ++ [(id, call.request)]).countP _ ≤ 1
        rw [List.countP_append, hzero, Nat.zero_add]
        exact List.countP_le_length
    · have hfalse : call.request.opens = false := Bool.eq_false_iff.2 hopens
      refine ⟨?_, fun entry hentry hentryOpens => ?_⟩
      · show (s.helper.inbox ++ [(id, call.request)]).countP _ ≤ 1
        rw [List.countP_append, List.countP_singleton, hfalse, if_neg Bool.false_ne_true]
        exact hcount
      · rcases List.mem_append.1 hentry with hentry | hentry
        · exact hidle entry hentry hentryOpens
        · rw [List.mem_singleton] at hentry
          rw [hentry, hfalse] at hentryOpens
          cases hentryOpens
  | handled id request rest answers hinbox hroom hrest _ =>
    rw [hinbox, List.countP_cons] at hcount
    rw [hinbox] at hidle
    rw [hroom, hrest]
    by_cases hopens : request.opens = true
    · -- no other request for a room is behind it
      rw [if_pos hopens] at hcount
      have hzero : rest.countP (fun entry => entry.2.opens) = 0 := by omega
      refine ⟨by omega, fun entry hentry hentryOpens => ?_⟩
      exact absurd hentryOpens (List.countP_eq_zero.1 hzero entry hentry)
    · refine ⟨by omega, fun entry hentry hentryOpens => ?_⟩
      exact handle_idle (hidle entry (List.mem_cons_of_mem _ hentry) hentryOpens) id answers (Bool.eq_false_iff.2 hopens)
  | polled refresh hroom hinbox _ =>
    rw [hinbox]
    refine ⟨hcount, fun entry hentry hopens => ?_⟩
    have hi := hidle entry hentry hopens
    rw [hroom, pollAndEmit_idle hi]
    exact hi

/-! ## The controller's side -/

theorem resume_vacant {host : Host} {handler : Handler} {piece : TerracottaController × Outcome}
    (h : (TerracottaController.resume host handler piece).stateMachine.vacant = true) :
    piece.1.stateMachine.vacant = true := by
  obtain ⟨c, await | _ | e⟩ := piece
  · exact h
  · cases handler <;> exact h
  · cases handler with
    | faults | diagnose command | recover =>
      simp only [TerracottaController.resume, caught] at h
      split at h
      · exact h
      · rw [fault, publishFault_eq] at h; cases h
    | refresh poll =>
      simp only [TerracottaController.resume, caught] at h
      split at h <;> exact h

theorem answered_vacant {host : Host} {c : TerracottaController} {response : Envelope} :
    ∀ {call : Call}, (c.answered host call response).1.stateMachine.vacant = true → c.stateMachine.vacant = true
  | .create request sessionId lanAddress, h => by
    simp only [answered] at h
    split at h
    · exact h
    · unfold createConnected at h
      split at h
      · exact h
      · rename_i d hd
        rw [(transitionTo_ok hd).1] at h
        simp [selectSession, publish, TerracottaRoomState.vacant] at h
  | .join request code, h => by
    simp only [answered] at h
    split at h
    · exact h
    · unfold joinConnected at h
      split at h
      · exact h
      · rename_i d hd
        rw [(transitionTo_ok hd).1] at h
        simp only at h
        split at h <;> simp [copy, selectSession, publish, TerracottaRoomState.vacant] at h
  | .leave, h => h
  | .refresh poll, h => by
    simp only [answered] at h
    split at h
    · exact h
    · unfold refreshAnswered at h
      split at h
      · exact h
      split at h
      · simp only at h
        split at h
        · rwa [stopStatusPolling_stateMachine] at h
        · rename_i d hd
          rw [(transitionTo_ok hd).1] at h
          cases h
      · exact h
  | .diagnose previous command, h => by
    simp only [answered] at h
    split at h
    · exact h
    · unfold diagnoseAnswered at h
      split at h
      · exact h
      · rename_i d hd
        split at hd
        · rw [(transitionTo_ok hd).1] at h
          change TerracottaRoomState.vacant (if previous = .reconnecting then .reconnecting else .connected) = true at h
          split at h <;> cases h
        · cases hd; exact h
  | .recover request, h => by
    simp only [answered] at h
    split at h
    · exact h
    · unfold recoverConnected at h
      split at h
      · exact h
      · rename_i d hd
        rw [startStatusPolling_stateMachine] at h
        split at hd
        · rw [(transitionTo_ok hd).1] at h
          cases h
        · cases hd; exact h

end Sys

/-- The awaits of the operations that stop the Helper first, whatever state the machine is in: a leave without a room and
a recovery. -/
def Await.startsOver : Await → Bool
  | .stopping .leaveWaiting | .stopping (.recover _) | .calling (.recover _) _ => true
  | _ => false

def Await.opens : Await → Bool
  | .calling call _ => call.opens
  | _ => false

namespace Sys

/-- What the controller relies on where `clean` says that the Helper has no room: a create may start only then, except
while an operation that starts over holds the gate; and a call that opens a room keeps the machine, unless it is a
recovery's, and, until it is sent, the Helper. -/
structure Serves (c : TerracottaController) (clean : Prop) : Prop where
  vacant : c.stateMachine.vacant = true → (∀ await, c.gate = some await → await.startsOver = false) → clean
  opens : ∀ call p, c.gate = some (.calling call p) → call.opens = true →
    ((Await.calling call p).startsOver = false → c.stateMachine.vacant = false) ∧
      ((∀ client id, p ≠ .sent client id) → clean)

theorem serves_free {c : TerracottaController} {clean : Prop} (hgate : c.gate = none)
    (h : c.stateMachine.vacant = true → clean) : Serves c clean :=
  ⟨fun hv _ => h hv, fun _ _ hg => (by rw [hgate] at hg; cases hg)⟩

theorem resume_serves {host : Host} {handler : Handler} {piece : TerracottaController × Outcome} {clean : Prop}
    (hwait : ∀ await, piece.2 = .wait await → ∀ call p, await ≠ .calling call p)
    (hvacant : piece.1.stateMachine.vacant = true → clean) :
    Serves (TerracottaController.resume host handler piece) clean where
  vacant hv _ := hvacant (resume_vacant hv)
  opens call p hg _ := absurd rfl (hwait _ (resume_gate hg).1 call p)

/-- Where an operation that starts over goes on waiting, nothing is asked but that its call finds no room. -/
theorem startsOver_serves {c : TerracottaController} {clean : Prop} {await : Await} (hgate : c.gate = some await)
    (hover : await.startsOver = true) (hclean : ∀ call p, await = .calling call p → clean) : Serves c clean := by
  refine ⟨fun _ hnot => absurd (hnot await hgate) (by rw [hover]; exact Bool.noConfusion), fun call p hg _ => ?_⟩
  cases hgate.symm.trans hg
  exact ⟨fun hnot => absurd hnot (by rw [hover]; exact Bool.noConfusion), fun _ => hclean call p rfl⟩

theorem thrown_serves {host : Host} {handler : Handler} {c : TerracottaController} {e : Exn} {clean : Prop}
    (hvacant : c.stateMachine.vacant = true → clean) :
    Serves (TerracottaController.resume host handler (c, .threw e)) clean :=
  resume_serves (fun _ h => by cases h) hvacant

theorem faulted_serves {host : Host} {c : TerracottaController} {e : Exn} {clean : Prop} (he : e ≠ .canceled) :
    ∀ {handler : Handler}, (∀ poll, handler ≠ .refresh poll) →
      Serves (TerracottaController.resume host handler (c, .threw e)) clean
  | .faults, _ | .diagnose _, _ | .recover, _ => by
    refine serves_free rfl (fun hv => ?_)
    simp only [TerracottaController.resume, caught] at hv
    rw [if_neg he, fault, publishFault_eq] at hv
    cases hv
  | .refresh poll, hnot => absurd rfl (hnot poll)

section enter

variable {host : Host} {scene : Scene} {c : TerracottaController} {clean : Prop}

theorem clean_of_unfaulted (hvacant : c.stateMachine.vacant = true → clean) (hfaulted : c.stateMachine = .faulted → clean)
    (h : c.unfaulted.stateMachine.vacant = true) : clean := by
  by_cases hf : c.stateMachine = .faulted
  · exact hfaulted hf
  · unfold unfaulted at h
    rw [if_neg hf] at h
    exact hvacant h

theorem createEnter_serves (request : TerracottaCreateRoomRequest) (hvacant : c.stateMachine.vacant = true → clean)
    (hfaulted : c.stateMachine = .faulted → clean) :
    Serves (TerracottaController.resume host .faults (c.createEnter host scene request)) clean := by
  have hopens : c.unfaulted.Opens → clean := fun h =>
    clean_of_unfaulted hvacant hfaulted (by obtain h | h | h := h <;> rw [h] <;> rfl)
  have h := createEnter_enters host scene request c
  generalize c.createEnter host scene request = piece at h
  cases h with
  | refused h => exact faulted_serves (by simp) nofun
  | waits h pending state snapshot _ _ => exact serves_free rfl (fun _ => hopens h)
  | stuck h pending e he => exact faulted_serves he nofun
  | badPort h message => exact faulted_serves (by simp) nofun
  | calls h snapshot sessionId lanAddress _ =>
    exact ⟨fun hv => (by cases hv), fun call p hg _ => ⟨fun _ => rfl, fun _ => hopens h⟩⟩

theorem joinEnter_serves (request : TerracottaJoinRoomRequest) (code : String)
    (hvacant : c.stateMachine.vacant = true → clean) (hfaulted : c.stateMachine = .faulted → clean) :
    Serves (TerracottaController.resume host .faults (c.joinEnter request code)) clean := by
  have h := joinEnter_enters request code c
  generalize c.joinEnter request code = piece at h
  cases h with
  | refused h => exact faulted_serves (by simp) nofun
  | calls h snapshot _ =>
    have hclean : clean := clean_of_unfaulted hvacant hfaulted (by rw [h]; rfl)
    exact ⟨fun hv => (by cases hv), fun call p hg _ => ⟨fun _ => rfl, fun _ => hclean⟩⟩

theorem leaveEnter_serves (hvacant : c.stateMachine.vacant = true → clean) :
    Serves (TerracottaController.resume host .faults c.leaveEnter) clean := by
  have h := leaveEnter_enters c
  generalize c.leaveEnter = piece at h
  cases h with
  | idle h =>
    refine serves_free rfl (fun _ => hvacant ?_)
    rw [forgotten_stateMachine] at h
    rw [h]; rfl
  | stops h => exact startsOver_serves rfl rfl (fun _ _ h => by cases h)
  | calls h =>
    refine ⟨fun hv => (by cases hv), fun call p hg hopens => ?_⟩
    cases hg
    cases hopens
  | stuck h e he => exact faulted_serves he nofun

theorem diagnoseEnter_serves (command : Bool) :
    Serves (TerracottaController.resume host (.diagnose command) (c.diagnoseEnter command)) clean := by
  have hcalls : ∀ {d : TerracottaController} {previous : TerracottaRoomState}, d.stateMachine = .diagnosing →
      Serves { d with gate := some (.calling (.diagnose previous command) .starting) } clean := fun hd => by
    refine ⟨fun hv => ?_, fun call p hg hopens => ?_⟩
    · rw [show TerracottaController.stateMachine _ = _ from hd] at hv; cases hv
    · cases hg; cases hopens
  unfold diagnoseEnter
  split
  · exact faulted_serves (by simp) nofun
  · simp only
    split
    · split
      · rename_i e he
        exact faulted_serves (transitionTo_error he) nofun
      · rename_i d hd
        exact hcalls (by rw [(transitionTo_ok hd).1]; rfl)
    · rename_i hdiag
      exact hcalls (not_not.1 hdiag)

/-- **An operation gets the gate.** -/
theorem enter_serves (hvacant : c.stateMachine.vacant = true → clean) : ∀ {op : Op},
    (op.opens = true → c.stateMachine = .faulted → clean) →
      Serves (TerracottaController.resume host (.ofOp op) (c.enter host scene op)) clean
  | .create request, hfaulted => createEnter_serves request hvacant (hfaulted rfl)
  | .join request code, hfaulted => joinEnter_serves request code hvacant (hfaulted rfl)
  | .leave, _ => leaveEnter_serves hvacant
  | .refresh poll, _ => by
    refine ⟨fun hv _ => hvacant hv, fun call p hg hopens => ?_⟩
    cases hg
    cases hopens
  | .diagnose command, _ => diagnoseEnter_serves command
  | .recover intent, _ => startsOver_serves rfl rfl (fun _ _ h => by cases h)

end enter

/-! ## The invariant -/

/-- An operation that starts over ends with the machine where a create may start. -/
def CutShort (s : Sys) (e : Exn) : Prop :=
  e = .canceled ∧ s.controller.stateMachine.vacant = true ∧ ∃ await ∈ s.controller.gate, await.startsOver = true

/-- A reset of the machine makes no room of the Helper be forgotten. -/
def ResetSafely (s : Sys) : Prop :=
  s.controller.stateMachine.vacant = true ∨ (∃ await ∈ s.controller.gate, await.startsOver = true) ∨
    Clean s ∧ ∀ await ∈ s.controller.gate, await.opens = false

/-- The condition: a create or a join that finds the controller faulted finds the Helper without a room; so does a
cancellation that cuts an operation short which starts over; and no push event makes the controller forget a room. -/
def Cleared (s : Sys) : Label → Prop
  | .enter i _ => ∀ op ∈ s.controller.waiting[i]?, op.opens = true → s.controller.stateMachine = .faulted → Clean s
  | .throws e => CutShort s e → Clean s
  | .stopFails outcome e => CutShort s e → outcome = .clientKept → Clean s
  | .push _ (.stateChanged _) => ResetSafely s
  | _ => True

structure Served (s : Sys) : Prop where
  controller : Serves s.controller (Clean s)
  helper : s.helper.Single

theorem clean_of_sendsOpen {s : Sys} {l : Label} (hs : Serves s.controller (Clean s)) (h : SendsOpen s l) : Clean s := by
  obtain ⟨id, call, client, -, hgate, hopens⟩ := h
  exact (hs.opens call _ hgate hopens).2 (fun _ _ h => by cases h)

theorem send_serves {host : Host} {s t : Sys} {l : Label} (hs : Serves s.controller (Clean s)) (hsend : SendsOpen s l)
    (h : step host s l = some t) (clean : Prop) : Serves t.controller clean := by
  obtain ⟨id, call, client, rfl, hgate, hopens⟩ := hsend
  obtain ⟨hvacant, -⟩ := hs.opens call _ hgate hopens
  have hover : ∀ p q, (Await.calling call p).startsOver = (Await.calling call q).startsOver := by
    intro p q
    cases call <;> rfl
  simp only [step, hgate] at h
  split at h
  · cases h
    refine ⟨fun hv hnot => ?_, fun call' p hg _ => ?_⟩
    · rw [hvacant (by rw [hover _ (.sent client id)]; exact hnot _ rfl)] at hv
      cases hv
    · cases hg
      exact ⟨fun hnot => hvacant (by rw [hover _ (.sent client id)]; exact hnot), fun hp => absurd rfl (hp client id)⟩
  · cases h

theorem aside_serves {l : Label} {c c' : TerracottaController} {clean clean' : Prop} (hc : Serves c clean)
    (ha : Aside l c c') (hreset : Resets l → c.stateMachine.vacant = true ∨
      (∃ await ∈ c.gate, await.startsOver = true) ∨ clean ∧ ∀ await ∈ c.gate, await.opens = false)
    (hclean : clean → clean') : Serves c' clean' := by
  have hvacant : c'.stateMachine.vacant = true → c.stateMachine.vacant = true ∨
      (∃ await ∈ c.gate, await.startsOver = true) ∨ clean ∧ ∀ await ∈ c.gate, await.opens = false := fun hv => by
    rcases ha.machine with hm | hm | hm | ⟨hr, -⟩
    · rw [hm] at hv; exact .inl hv
    · rw [hm] at hv; cases hv
    · rw [hm] at hv; cases hv
    · exact hreset hr
  refine ⟨fun hv hnot => ?_, fun call p hg hopens => ?_⟩
  · rw [ha.gate] at hnot
    rcases hvacant hv with hv | ⟨await, hg, hover⟩ | ⟨hcl, -⟩
    · exact hclean (hc.vacant hv hnot)
    · rw [hnot await hg] at hover; cases hover
    · exact hclean hcl
  · rw [ha.gate] at hg
    obtain ⟨hfalse, hcl⟩ := hc.opens call p hg hopens
    refine ⟨fun hnot => Bool.eq_false_iff.2 (fun hv => ?_), fun hp => hclean (hcl hp)⟩
    rcases hvacant hv with hv | ⟨await, hg', hover⟩ | ⟨-, hno⟩
    · rw [hfalse hnot] at hv; cases hv
    · cases hg.symm.trans hg'
      rw [hnot] at hover
      cases hover
    · have hno := hno _ hg
      rw [show Await.opens _ = call.opens from rfl, hopens] at hno
      cases hno

theorem recover_ne_refresh (poll : Option Nat) : Handler.recover ≠ .refresh poll := Handler.noConfusion

/-- A recovery whose request is answered leaves the machine in the room, or faulted. -/
theorem recoverAnswered_serves {host : Host} {c : TerracottaController} {request : HelperRequest} {response : Envelope}
    {clean : Prop} :
    Serves (TerracottaController.resume host .recover (c.answered host (.recover request) response)) clean := by
  simp only [answered]
  split
  · rename_i e he
    exact faulted_serves (readPayload_error he) recover_ne_refresh
  · rename_i connected _
    unfold recoverConnected
    split
    · rename_i e he
      refine faulted_serves ?_ recover_ne_refresh
      split at he
      · exact transitionTo_error he
      · cases he
    · rename_i d hd
      refine serves_free rfl (fun hv => ?_)
      change TerracottaRoomState.vacant (TerracottaController.startStatusPolling _).stateMachine = true at hv
      rw [startStatusPolling_stateMachine] at hv
      have hconnected : d.stateMachine = .connected := by
        split at hd
        · rw [(transitionTo_ok hd).1]
        · rename_i hc
          cases hd
          exact not_not.1 hc
      change d.stateMachine.vacant = true at hv
      rw [hconnected] at hv
      cases hv

/-- A recovery that has stopped the Helper asks the next one for the room, or gives up. -/
theorem recoverStopped_serves {host : Host} {c : TerracottaController} {intent : RecoveryIntent} {clean : Prop}
    (hclean : clean) : Serves (TerracottaController.resume host .recover (c.recoverStopped intent)) clean := by
  have hcalls : ∀ {d : TerracottaController} {request : HelperRequest},
      Serves { d with gate := some (.calling (.recover request) .starting) } clean :=
    startsOver_serves rfl rfl (fun _ _ _ => hclean)
  unfold recoverStopped
  split
  · split
    · split
      · exact faulted_serves (by simp) recover_ne_refresh
      · exact hcalls
    · exact faulted_serves (by simp) recover_ne_refresh
  · split
    · split
      · exact faulted_serves (by simp) recover_ne_refresh
      · exact hcalls
    · exact faulted_serves (by simp) recover_ne_refresh

theorem not_calling_of_opened {await : Await} (h : await.opened = true) (call : Call) (p : CallPhase) :
    await ≠ .calling call p := by
  cases await with
  | saving copies => exact Await.noConfusion
  | copying => exact Await.noConfusion
  | _ => cases h

theorem ofAwait_of_startsOver {await : Await} (h : await.startsOver = true) (poll : Option Nat) :
    Handler.ofAwait await ≠ .refresh poll := by
  cases await with
  | calling call p => cases call <;> first | exact Handler.noConfusion | cases h
  | stopping stop => cases stop <;> exact Handler.noConfusion
  | saving copies => cases h
  | copying => cases h

theorem goesOn_serves {host : Host} {s t : Sys} {l : Label} {await : Await} {piece : TerracottaController × Outcome}
    (hs : Serves s.controller (Clean s)) (hcleared : Cleared s l) (hgate : s.controller.gate = some await)
    (hpiece : Piece host s l await piece) (hclean : Clean s → Clean t) (h : step host s l = some t) :
    Serves (TerracottaController.resume host (.ofAwait await) piece) (Clean t) := by
  have hnot : await.startsOver = false → s.controller.stateMachine.vacant = true → Clean t := fun hno hv =>
    hclean (hs.vacant hv (fun await' hg => by cases hgate.symm.trans hg; exact hno))
  -- an exception of an operation that starts over faults the machine unless it is a cancellation
  have hthrows : ∀ e, (e = .canceled → s.controller.stateMachine.vacant = true → await.startsOver = true → Clean t) →
      Serves (TerracottaController.resume host (.ofAwait await) (s.controller, .threw e)) (Clean t) := fun e hcut => by
    cases hover : await.startsOver with
    | false => exact thrown_serves (hnot hover)
    | true =>
      by_cases hcancel : e = .canceled
      · exact thrown_serves (fun hv => hcut hcancel hv hover)
      · exact faulted_serves hcancel (ofAwait_of_startsOver hover)
  cases hpiece with
  | thrown _ e he =>
    refine hthrows e (fun hcancel hv hover => ?_)
    have hcut : CutShort s e := ⟨hcancel, hv, await, hgate, hover⟩
    rcases he with rfl | ⟨outcome, rfl⟩ | ⟨launched, outcome, rfl⟩
    · exact hclean (hcleared hcut)
    · cases outcome with
      | clientKept => exact hclean (hcleared hcut rfl)
      | completed | clientGone =>
        simp only [step, hgate] at h
        split at h
        · cases h; exact .inl rfl
        · cases h
    · simp only [step, hgate] at h
      split at h
      · rename_i hnone
        exact hclean (.inl hnone)
      · cases h
  | refused call client id e he => exact hthrows e (fun hcancel => absurd hcancel he)
  | answered call client id response =>
    by_cases hrecover : ∃ request, call = .recover request
    · obtain ⟨request, rfl⟩ := hrecover
      exact recoverAnswered_serves
    · refine resume_serves (fun a ha => ?_) (fun hv => hnot ?_ (answered_vacant hv))
      · rcases answered_wait ha with hopened | ⟨-, rfl⟩
        · exact not_calling_of_opened hopened
        · exact fun _ _ => Await.noConfusion
      · cases call with
        | recover request => exact absurd ⟨request, rfl⟩ hrecover
        | _ => rfl
  | stopped stop hl =>
    subst hl
    have hcleanT : Clean t := by
      simp only [step, hgate] at h
      cases h
      exact .inl rfl
    cases stop with
    | leaveWaiting => exact resume_serves (fun _ h => by cases h) (fun _ => hcleanT)
    | leaveRoom =>
      refine resume_serves (fun a ha => ?_) (fun _ => hcleanT)
      change s.controller.leaveStopped.2 = _ at ha
      unfold leaveStopped at ha
      split at ha <;> cases ha
    | recover intent => exact recoverStopped_serves hcleanT
  | saved copies => exact resume_serves (fun a ha => not_calling_of_opened (copy_wait ha)) (hnot rfl)
  | copied => exact resume_serves (fun _ h => by cases h) (hnot rfl)

theorem resetSafely_of_resets {s : Sys} {l : Label} (h : Cleared s l) (hr : Resets l) : ResetSafely s := by
  unfold Resets at hr
  split at hr
  · exact h
  · exact absurd hr id

/-- **One step keeps the two sides together.** -/
theorem step_served {host : Host} {s t : Sys} {l : Label} (hs : Served s) (hcleared : Cleared s l)
    (h : step host s l = some t) : Served t := by
  refine ⟨?_, step_single hs.helper (clean_of_sendsOpen hs.controller) h⟩
  by_cases hsend : SendsOpen s l
  · exact send_serves hs.controller hsend h _
  have hclean : Clean s → Clean t := fun hcl => step_clean hcl hsend h
  cases step_turns h with
  | aside _ ha => exact aside_serves hs.controller ha (resetSafely_of_resets hcleared) hclean
  | enters i scene op hl hgate hop hc =>
    subst hl
    rw [hc]
    have hvacant : s.controller.stateMachine.vacant = true → Clean t := fun hv =>
      hclean (hs.controller.vacant hv (fun _ h => by rw [hgate] at h; cases h))
    exact enter_serves (by exact hvacant) (fun hopens hf => hclean (hcleared op hop hopens hf))
  | getsOn call p q hgate hp hc =>
    rw [hc]
    have hover : (Await.calling call p).startsOver = (Await.calling call q).startsOver := by cases call <;> rfl
    refine ⟨fun hv hnot => hclean (hs.controller.vacant hv (fun await hg => ?_)), fun call' p' hg hopens => ?_⟩
    · cases hgate.symm.trans hg
      rw [hover]
      exact hnot _ rfl
    · cases hg
      obtain ⟨hvacant, hcl⟩ := hs.controller.opens _ p hgate hopens
      exact ⟨fun hnot => hvacant (hover.trans hnot), fun _ => hclean (hcl hp)⟩
  | goesOn await piece hgate hpiece hc =>
    rw [hc]
    exact goesOn_serves hs.controller hcleared hgate hpiece hclean h

end Sys

/-- The request for a room finds none, and the service does not reject it: if its response says
`room.operation-in-progress`, the network backend said so. -/
def Effect.Accepted : Effect → Prop
  | .sent request room => request.opens = true → room = .idle
  | .answered request room answers response => request.opens = true →
      room = .idle ∧ (response.rejectsBusy → ∃ error, answers.room = .error error ∧ error.isBusy = true)
  | _ => True

namespace Sys

theorem emits_accepted {s t : Sys} {l : Label} {e : Effect} (hs : Served s) (h : Emits s l t e) : e.Accepted := by
  cases e with
  | launched => trivial
  | createCalled => trivial
  | sent request room =>
    obtain ⟨call, client, hgate, hclient, rfl, rfl⟩ := h
    intro hopens
    obtain ⟨-, hclean⟩ := hs.controller.opens call _ hgate hopens
    rcases hclean (fun _ _ h => by cases h) with hnone | hvacated
    · rw [hclient] at hnone; cases hnone
    · exact hvacated.1
  | answered request room answers response =>
    obtain ⟨id, rest, hinbox, rfl, rfl⟩ := h
    intro hopens
    have hidle := hs.helper.2 (id, request) (by rw [hinbox]; exact List.mem_cons_self) hopens
    exact ⟨hidle, handle_opens hidle hopens⟩

theorem step_accepted {host : Host} {s t : Sys} {l : Label} (hs : Served s) (h : step host s l = some t) :
    ∃ effects, t.log = s.log ++ effects ∧ ∀ e ∈ effects, e.Accepted := by
  rcases step_log h with hlog | ⟨e, hlog, he⟩
  · exact ⟨[], by rw [hlog, List.append_nil], fun _ h => by cases h⟩
  · refine ⟨[e], hlog, fun e' h => ?_⟩
    rw [List.mem_singleton] at h
    exact h ▸ emits_accepted hs he

theorem served_init : Served init :=
  ⟨serves_free rfl (fun _ => .inl rfl), Nat.zero_le 1, fun _ h => by cases h⟩

end Sys

open Sys in
/-- **Every request for a room reaches an idle Helper**, in every run in which a create or a join that finds the
controller faulted finds the Helper without a room, and the controller forgets no room. -/
theorem open_requests_find_idle_helper (host : Host) (labels : List Label) (s : Sys)
    (hcleared : Run.Along (step host) Cleared init labels) (hrun : Run.run (step host) init labels = some s) :
    ∀ e ∈ s.log, e.Accepted := by
  obtain ⟨effects, hlog, haccepted⟩ := Run.grows Sys.log Served Effect.Accepted
    (fun s l t hs hok h => ⟨step_served hs hok h, step_accepted hs h⟩) served_init hcleared hrun
  rw [hlog]
  exact haccepted

namespace Sys

instance (s : Sys) : Decidable (Clean s) := inferInstanceAs (Decidable (_ ∨ _ ∧ _))

instance (s : Sys) (e : Exn) : Decidable (CutShort s e) := inferInstanceAs (Decidable (_ ∧ _ ∧ _))

instance (s : Sys) : Decidable (ResetSafely s) := inferInstanceAs (Decidable (_ ∨ _ ∨ _ ∧ _))

def decideCleared (s : Sys) : Label.Decider (Cleared s) where
  enter i _ := inferInstanceAs (Decidable (∀ op ∈ s.controller.waiting[i]?, _))
  throws _ := inferInstanceAs (Decidable (_ → _))
  stopFails _ _ := inferInstanceAs (Decidable (_ → _ → _))
  push
    | _, .stateChanged _ => inferInstanceAs (Decidable (ResetSafely s))
    | _, .peerJoined _ | _, .peerLeft _ | _, .peerUpdated _ | _, .networkUpdated _ => instDecidableTrue

instance (s : Sys) (l : Label) : Decidable (Cleared s l) := (decideCleared s).at l

end Sys

def failingBackend : BackendAnswers :=
  { willingBackend with room := .error ⟨"network.easytier-start-failed", "EasyTier did not start.", true⟩ }

def createFails : List Label :=
  [.create { lanPort := some 25565 }, .enter 0 sampleScene, .clientReady, .send "a", .handle failingBackend, .deliver]

/-- The user leaves after the failure, which stops the Helper, and creates again. -/
def leaveThenCreate : List Label := createFails ++ [.leave, .enter 0 sampleScene, .stopped] ++ createRoom

open Sys in
theorem create_after_leave_is_accepted :
    ∃ s, Run.run (step sampleHost) init leaveThenCreate = some s ∧ s.controller.stateMachine = .connected ∧
      ∀ e ∈ s.log, e.Accepted := by
  have hall : (Run.run (step sampleHost) init leaveThenCreate).any
      (fun s => s.controller.stateMachine = .connected) = true := by
    decide +kernel
  obtain ⟨s, hs, hconnected⟩ := (Option.any_eq_true _ _).1 hall
  exact ⟨s, hs, of_decide_eq_true hconnected,
    open_requests_find_idle_helper sampleHost leaveThenCreate s (by decide +kernel) hs⟩

def createTwice : List Label :=
  createFails ++
    [.create { lanPort := some 25565 }, .enter 0 sampleScene, .clientReady, .send "b", .handle willingBackend, .deliver]

def Effect.sentTooEarly : Effect → Bool
  | .sent request room => request.opens && decide (room ≠ .idle)
  | _ => false

open Sys in
/-- **A create after a failed one is rejected by the Helper**, whose room is still faulted: the backend, which would open
the room now, is not asked. -/
theorem create_after_failure_is_rejected :
    ∃ s, Run.run (step sampleHost) init createTwice = some s ∧
      s.controller.snapshot.errorMessage =
        some "room.operation-in-progress: A room operation is already in progress." ∧
      ¬ ∀ e ∈ s.log, e.Accepted := by
  have hall : (Run.run (step sampleHost) init createTwice).any (fun s =>
      s.controller.snapshot.errorMessage = some "room.operation-in-progress: A room operation is already in progress." ∧
        s.log.any Effect.sentTooEarly = true) = true := by
    decide +kernel
  obtain ⟨s, hs, hend⟩ := (Option.any_eq_true _ _).1 hall
  obtain ⟨hmessage, hearly⟩ := of_decide_eq_true hend
  refine ⟨s, hs, hmessage, fun haccepted => ?_⟩
  obtain ⟨e, he, hsent⟩ := List.any_eq_true.1 hearly
  have hok := haccepted e he
  cases e with
  | sent request room =>
    obtain ⟨hopens, hroom⟩ := Bool.and_eq_true_iff.1 hsent
    exact of_decide_eq_true hroom (hok hopens)
  | _ => cases hsent

end Terracotta
