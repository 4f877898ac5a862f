import Terracotta.Intents
import Terracotta.Sections
/-!
# What a recovery asks for

Between the room a Helper opened and the request of a recovery lie a crash, a report, a queued task and the gate, and
anything may happen beside them.  Every intent in sight is that of a room which a Helper opened, in every state of every
run, and so is what a recovery sends.
-/
namespace Terracotta

open TerracottaController Sys

namespace Sys

/-! ## The answer to a call -/

/-- The response says what a Helper answered to the request. -/
def AnswersIn (log : List Effect) (request : HelperRequest) (response : Envelope) : Prop :=
  ∃ room answers, .answered request room answers response ∈ log

/-- The id of the call that holds the gate is that of its request and of nothing else on the wire. -/
def Wired (s : Sys) : Prop :=
  ∀ call client id, s.controller.gate = some (.calling call (.sent client id)) →
    (∀ entry ∈ s.helper.inbox, entry.1 = id → entry.2 = call.request) ∧
      ∀ response ∈ s.helper.responses, response.id = id → AnswersIn s.log call.request response

theorem respond_id {α : Type} (id : String) (request : HelperRequest) (payload : α → Json.Value)
    (result : Except RoomError α) : (respond id request payload result).id = id := by
  cases result <;> rfl

theorem handle_id (svc : RoomService) (id : String) (answers : BackendAnswers) : ∀ request : HelperRequest,
    (svc.handle id request answers).2.id = id
  | .create _ => respond_id id _ _ _
  | .join _ => respond_id id _ _ _
  | .leave => respond_id id _ _ _
  | .status => respond_id id _ _ _
  | .diagnose => respond_id id _ _ _

theorem fresh_iff (h : Helper) (id : String) : h.fresh id = true ↔
    (∀ entry ∈ h.inbox, entry.1 ≠ id) ∧ ∀ response ∈ h.responses, response.id ≠ id := by
  simp [Helper.fresh]

theorem step_grows {host : Host} {s t : Sys} {l : Label} (h : step host s l = some t) : ∃ more, t.log = s.log ++ more := by
  rcases step_log h with hlog | ⟨e, hlog, -⟩
  · exact ⟨[], by rw [hlog, List.append_nil]⟩
  · exact ⟨[e], hlog⟩

/-- **Beside the gate the wire only moves when the Helper answers**: the head of its inbox becomes a response. -/
theorem beside_wire {host : Host} {s t : Sys} {l : Label} (hl : beside l = true) (h : step host s l = some t) :
    t.helper.inbox = s.helper.inbox ∧ t.helper.responses = s.helper.responses ∧ (∃ more, t.log = s.log ++ more) ∨
      ∃ id request answers, s.helper.inbox = (id, request) :: t.helper.inbox ∧
        t.helper.responses = s.helper.responses ++ [(s.helper.room.handle id request answers).2] ∧
        t.log = s.log ++ [.answered request s.helper.room.state.state answers
          (s.helper.room.handle id request answers).2] := by
  have hlog := step_grows h
  cases l with
  | handle answers =>
    right
    simp only [step] at h
    split at h
    · rename_i id request rest helper hinbox hhandle
      cases h
      unfold Helper.handle at hhandle
      rw [hinbox] at hhandle
      split at hhandle
      · rename_i id' request' rest' _ heq
        cases heq
        cases hhandle
        exact ⟨id, request, answers, hinbox, rfl, rfl⟩
      · cases hhandle
    · cases h
  | create request | leave | restartHelper | join request | refresh | diagnose command | push sequence event
  | gameOutput sessionId text | launchEvent sessionId state => cases h; exact .inl ⟨rfl, rfl, hlog⟩
  | begin i | settingsLoaded i settings | cancelWait i | processEnded i now | report i | commandFailed i =>
    simp only [step] at h
    split at h <;> first | (cases h; exact .inl ⟨rfl, rfl, hlog⟩) | cases h
  | helperPoll refresh | restartStopped outcome =>
    simp only [step] at h
    split at h <;> first | (cases h; exact .inl ⟨rfl, rfl, hlog⟩) | cases h
  | processExit generation =>
    simp only [step] at h
    split at h
    · cases h
      refine .inl ⟨?_, ?_, hlog⟩
      · show (if _ then _ else s.helper).inbox = _
        split <;> rfl
      · show (if _ then _ else s.helper).responses = _
        split <;> rfl
    · cases h
  | pollTick =>
    simp only [step, Option.map_eq_some_iff] at h
    obtain ⟨c, -, rfl⟩ := h
    exact .inl ⟨rfl, rfl, hlog⟩
  | enter i scene | clientReady | startFails launched outcome e | send id | deliver | stopped | stopFails outcome e
  | written | throws e => cases hl

/-- **Beside the gate a recovery comes to it with the intent the controller keeps**, and with no other. -/
structure Beside (c c' : TerracottaController) : Prop where
  gate : c'.gate = c.gate
  recovery : c'.recovery = c.recovery
  waiting : ∀ intent, .recover intent ∈ c'.waiting → .recover intent ∈ c.waiting ∨ c.recovery = some intent

theorem Beside.of_aside {l : Label} {c c' : TerracottaController} (h : Aside l c c')
    (hw : ∀ intent, .recover intent ∈ c'.waiting → .recover intent ∈ c.waiting ∨ c.recovery = some intent) :
    Beside c c' :=
  ⟨h.gate, h.recovery, hw⟩

theorem Beside.of_sublist {l : Label} {c c' : TerracottaController} (h : Aside l c c')
    (hw : ∀ op ∈ c'.waiting, op ∈ c.waiting) : Beside c c' :=
  .of_aside h (fun _ hop => .inl (hw _ hop))

theorem Beside.of_call {l : Label} {c c' : TerracottaController} {op : Op} (h : Aside l c c')
    (hw : c'.waiting = c.waiting ++ [op]) (hop : ∀ intent, op ≠ .recover intent) : Beside c c' := by
  refine .of_aside h (fun intent hin => ?_)
  rw [hw] at hin
  rcases List.mem_append.1 hin with hin | hin
  · exact .inl hin
  · rw [List.mem_singleton] at hin
    exact absurd hin.symm (hop intent)

theorem refresh_beside {l : Label} {c d : TerracottaController} {poll : Option Nat} (h : Aside l c (d.refresh poll))
    (hw : d.waiting = c.waiting) : Beside c (d.refresh poll) := by
  unfold TerracottaController.refresh at h ⊢
  split
  · rename_i hlive
    rw [if_pos hlive] at h
    exact .of_call h (by simp [hw] : _ = c.waiting ++ [Op.refresh poll]) (fun _ => Op.noConfusion)
  · rename_i hlive
    rw [if_neg hlive] at h
    exact .of_sublist h (fun _ hop => hw ▸ hop)

theorem begin_beside {i : Nat} {c : TerracottaController} {task : Task} (h : c.queued[i]? = some task) :
    Beside c ({ c with queued := c.queued.eraseIdx i }.begin task) := by
  have ha := begin_aside h
  cases task with
  | loadSettings => exact .of_sublist ha (fun _ hop => hop)
  | resumeCreate request => exact .of_call ha rfl (fun _ => Op.noConfusion)
  | refresh => exact refresh_beside ha rfl
  | leave => exact .of_call ha rfl (fun _ => Op.noConfusion)
  | recover =>
    refine .of_aside ha (fun intent hin => ?_)
    simp only [begin] at hin
    split at hin
    · exact .inl hin
    · rename_i kept hkept
      rcases List.mem_append.1 hin with hin | hin
      · exact .inl hin
      · rw [List.mem_singleton] at hin
        cases hin
        exact .inr hkept

theorem publishFault_waiting (c : TerracottaController) (code message : String) :
    (c.publishFault code message).waiting = c.waiting := by
  rw [publishFault_eq]

theorem onHelperProcessExited_waiting (willAutoRestart : Bool) (c : TerracottaController) :
    ∀ op ∈ (c.onHelperProcessExited willAutoRestart).waiting, op ∈ c.waiting := by
  obtain ⟨-, -, -, -, -, hw, -⟩ := interrupted_fields willAutoRestart c
  intro op hop
  unfold onHelperProcessExited at hop
  split at hop
  · exact hop
  · simp only at hop
    split at hop
    · exact mem_stopStatusPolling_waiting (hw ▸ hop)
    · rw [publishFault_waiting] at hop
      exact mem_stopStatusPolling_waiting (hw ▸ hop)

theorem step_beside {host : Host} {s t : Sys} {l : Label} (hl : beside l = true) (h : step host s l = some t) :
    Beside s.controller t.controller := by
  cases l with
  | create request =>
    cases h
    have ha : Aside (.create request) s.controller
        { s.controller with waiting := s.controller.waiting ++ [.create request] } :=
      aside_call rfl rfl trivial (fun _ h => h)
    exact .of_call ha rfl (fun _ => Op.noConfusion)
  | leave =>
    cases h
    have ha : Aside .leave s.controller { s.controller with waiting := s.controller.waiting ++ [.leave] } :=
      aside_call rfl rfl trivial (fun _ h => h)
    exact .of_call ha rfl (fun _ => Op.noConfusion)
  | restartHelper => cases h; exact ⟨rfl, rfl, fun _ hop => .inl hop⟩
  | join request =>
    cases h
    have ha := join_aside s.controller request
    show Beside _ (s.controller.join request)
    unfold TerracottaController.join at ha ⊢
    split
    · rename_i hp
      rw [hp] at ha
      exact .of_sublist ha (fun op hop => publishFault_waiting s.controller _ _ ▸ hop)
    · rename_i code hp
      rw [hp] at ha
      exact .of_call ha rfl (fun _ => Op.noConfusion)
  | refresh => cases h; exact refresh_beside (refresh_aside .refresh none rfl rfl (fun _ h => h)) rfl
  | diagnose command =>
    cases h
    have ha := diagnose_aside (.diagnose command) s.controller command
    show Beside _ (s.controller.diagnose command)
    unfold TerracottaController.diagnose at ha ⊢
    split
    · rename_i hno
      rw [if_pos hno] at ha
      exact .of_sublist ha (fun _ hop => hop)
    · rename_i hno
      rw [if_neg hno] at ha
      exact .of_call ha rfl (fun _ => Op.noConfusion)
  | begin i =>
    simp only [step] at h
    split at h
    · cases h
    · cases h
    · rename_i task _ htask
      cases h
      exact begin_beside htask
  | settingsLoaded i settings =>
    simp only [step] at h
    split at h
    · cases h; exact ⟨rfl, rfl, fun _ hop => .inl hop⟩
    · cases h
  | cancelWait i =>
    simp only [step] at h
    split at h
    · cases h
    · cases h; exact ⟨rfl, rfl, fun _ hop => .inl (List.mem_of_mem_eraseIdx hop)⟩
  | handle answers | helperPoll refresh | processExit generation | processEnded i now =>
    simp only [step] at h
    split at h <;> first | (cases h; exact ⟨rfl, rfl, fun _ hop => .inl hop⟩) | cases h
  | report i =>
    simp only [step] at h
    split at h
    · cases h
    · cases h
      exact .of_sublist (onHelperProcessExited_aside (.report i) _ _) (onHelperProcessExited_waiting _ _)
  | push sequence event =>
    cases h
    refine .of_sublist (push_aside sequence event s.controller) (fun op hop => ?_)
    rw [onHelperPushEvent_writeEvent] at hop
    cases event with
    | stateChanged snapshot => exact mem_stopStatusPolling_waiting hop
    | networkUpdated network =>
      simp only at hop
      split at hop <;> exact hop
    | peerJoined member | peerLeft id | peerUpdated member => exact hop
  | gameOutput sessionId text =>
    cases h
    refine .of_sublist (onGameOutput_aside (.gameOutput sessionId text) host sessionId text s.controller) (fun op hop => ?_)
    unfold onGameOutput at hop
    split at hop
    · exact hop
    split at hop
    · split at hop <;> exact hop
    · exact hop
  | launchEvent sessionId state =>
    cases h
    refine .of_sublist (onLaunchEvent_aside (.launchEvent sessionId state) sessionId state s.controller) (fun op hop => ?_)
    unfold onLaunchEvent at hop
    split at hop
    · exact hop
    · split at hop <;> exact hop
  | pollTick =>
    simp only [step, Option.map_eq_some_iff] at h
    obtain ⟨c, hc, rfl⟩ := h
    have ha := pollTick_aside hc
    show Beside s.controller c
    unfold pollTick at hc
    split at hc
    · simp only at hc
      split at hc
      · cases hc
        exact refresh_beside ha rfl
      · cases hc
        exact .of_sublist ha (fun _ hop => hop)
    · cases hc
  | restartStopped outcome =>
    simp only [step] at h
    split at h
    · cases h
      show Beside _ (if outcome = .completed then _ else _)
      split
      · refine .of_sublist (restartStopped_aside (.restartStopped outcome) s.controller) (fun op hop => ?_)
        unfold restartStopped at hop
        split at hop
        · rwa [publishFault_waiting] at hop
        · exact hop
      · exact ⟨rfl, rfl, fun _ hop => .inl hop⟩
    · cases h
  | commandFailed i =>
    simp only [step] at h
    split at h
    · cases h
    · rename_i e he
      cases h
      refine .of_sublist (commandFailed_aside host i e s.controller) (fun op hop => ?_)
      change op ∈ (commandFailed host e _).waiting at hop
      unfold commandFailed at hop
      split at hop
      · rw [fault, publishFault_waiting] at hop
        exact hop
      · exact hop
  | enter i scene | clientReady | startFails launched outcome e | send id | deliver | stopped | stopFails outcome e
  | written | throws e => cases hl

/-! ## The invariant -/

/-- **Every intent in sight is earned**, and the wire is in order. -/
structure Recoverable (s : Sys) : Prop where
  traced : s.controller.Traced (Earned s.log)
  wired : s.Wired

theorem traced_of_step {host : Host} {s t : Sys} {l : Label} {c : TerracottaController} (hc : c.Traced (Earned s.log))
    (h : step host s l = some t) : c.Traced (Earned t.log) := by
  obtain ⟨more, hlog⟩ := step_grows h
  exact hc.mono (fun intent he => hlog ▸ he.mono)

theorem checkResponse_ok {jsonMessage expected : String} {inbound envelope : Envelope}
    (h : checkResponse jsonMessage expected inbound = .ok envelope) :
    envelope = inbound ∧ inbound.messageType = expected := by
  unfold checkResponse at h
  split at h
  · cases h
  split at h
  · split at h <;> cases h
  split at h
  · cases h
  · rename_i _ _ htype
    cases h
    exact ⟨rfl, not_not.1 htype⟩

theorem deliver_traced {host : Host} {s t : Sys} (hs : s.Recoverable) (h : step host s .deliver = some t) :
    t.controller.Traced (Earned s.log) := by
  simp only [step] at h
  split at h
  swap
  · cases h
  rename_i call client id hgate
  split at h
  · cases h
  rename_i response hfind
  cases h
  show (TerracottaController.resume host _ _).Traced _
  cases hcheck : checkResponse host.jsonMessage call.request.responseType response with
  | error e =>
    refine TracedPiece.resume ?_ hs.traced host _
    exact hs.traced.piece (within_of_eq rfl rfl) (.inl rfl) (fun await ha => by cases ha)
  | ok envelope =>
    refine TracedPiece.resume ?_ hs.traced host _
    obtain ⟨rfl, htype⟩ := checkResponse_ok hcheck
    -- the response under the call's id is the Helper's answer to the call's request
    obtain ⟨room, answers, hanswered⟩ := (hs.wired call client id hgate).2 envelope (List.mem_of_find?_eq_some hfind)
      (by simpa using List.find?_some hfind)
    exact hs.traced.answered host (fun connected intent hread hintent =>
      ⟨call.request, connected, ⟨room, answers, envelope, hanswered, htype, hread⟩, hintent⟩)

theorem step_traced {host : Host} {s t : Sys} {l : Label} (hs : s.Recoverable) (h : step host s l = some t) :
    t.controller.Traced (Earned s.log) := by
  by_cases hl : beside l = true
  · have hb := step_beside hl h
    refine ⟨fun intent hi => hs.traced.recovery intent (hb.recovery ▸ hi), fun intent hi => ?_,
      fun await hg => hs.traced.gate await (hb.gate ▸ hg)⟩
    rcases hb.waiting intent hi with hi | hi
    · exact hs.traced.waiting intent hi
    · exact hs.traced.recovery intent hi
  by_cases hd : l = .deliver
  · subst hd
    exact deliver_traced hs h
  by_cases hthrows : ∃ e, l = .throws e
  · obtain ⟨e, rfl⟩ := hthrows
    simp only [step] at h
    split at h
    · rename_i await hgate
      cases h
      show (TerracottaController.resume host (.ofAwait await) (s.controller, .threw e)).Traced _
      refine TracedPiece.resume ?_ hs.traced host _
      exact hs.traced.piece (within_of_eq rfl rfl) (.inl rfl) (fun await ha => by cases ha)
    · cases h
  cases step_turns h with
  | aside hb _ => exact absurd hb hl
  | enters i scene op _ hgate hop hc =>
    rw [hc]
    have hs' : { s.controller with waiting := s.controller.waiting.eraseIdx i }.Traced (Earned s.log) :=
      ⟨hs.traced.recovery, fun intent hi => hs.traced.waiting intent (List.mem_of_mem_eraseIdx hi), hs.traced.gate⟩
    exact TracedPiece.resume (hs'.enter host scene (fun intent he =>
      hs.traced.waiting intent (he ▸ List.mem_of_getElem? hop))) hs' host _
  | getsOn call p q hgate hp hc =>
    rw [hc]
    refine ⟨hs.traced.recovery, hs.traced.waiting, fun await hg => ?_⟩
    cases hg
    have ht := hs.traced.gate _ hgate
    cases call <;> exact ht
  | goesOn await piece hgate hpiece hc =>
    rw [hc]
    refine TracedPiece.resume ?_ hs.traced host _
    cases hpiece with
    | thrown _ e _ => exact hs.traced.piece (within_of_eq rfl rfl) (.inl rfl) (fun await ha => by cases ha)
    | refused call client id e _ => exact hs.traced.piece (within_of_eq rfl rfl) (.inl rfl) (fun await ha => by cases ha)
    | answered call client id response =>
      -- a response is answered by a delivery only
      exfalso
      cases l <;> simp [step, hgate] at h <;> first | exact hd rfl | exact hl rfl | exact hthrows ⟨_, rfl⟩
    | stopped stop _ => exact hs.traced.stopped (hs.traced.gate _ hgate)
    | saved copies =>
      exact hs.traced.piece (copy_within host copies s.controller) (.inl rfl)
        (fun await ha => Await.traced_of_opened (copy_wait ha))
    | copied => exact hs.traced.piece (within_of_eq rfl rfl) (.inl rfl) (fun await ha => by cases ha)

theorem enter_unsent {host : Host} {scene : Scene} {c : TerracottaController} {await : Await} : ∀ {op : Op},
    (c.enter host scene op).2 = .wait await → await.sent = false
  | .create request, h => by
    have he := createEnter_enters host scene request c
    change (c.createEnter host scene request).2 = _ at h
    generalize c.createEnter host scene request = piece at he h
    cases he <;> cases h
    rfl
  | .join request code, h => by
    have he := joinEnter_enters request code c
    change (c.joinEnter request code).2 = _ at h
    generalize c.joinEnter request code = piece at he h
    cases he <;> cases h
    rfl
  | .leave, h => by
    have he := leaveEnter_enters c
    change c.leaveEnter.2 = _ at h
    generalize c.leaveEnter = piece at he h
    cases he <;> cases h <;> rfl
  | .refresh poll, h => by cases h; rfl
  | .diagnose command, h => by rw [diagnoseEnter_wait h]; rfl
  | .recover intent, h => by cases h; rfl

theorem unsent_of_opened : ∀ {await : Await}, await.opened = true → await.sent = false
  | .saving _, _ | .copying, _ => rfl
  | .calling _ _, h | .stopping _, h => by cases h

theorem stopped_unsent {c : TerracottaController} {await : Await} : ∀ {stop : Stopping},
    (c.stopped stop).2 = .wait await → await.sent = false
  | .leaveWaiting, h => by cases h
  | .leaveRoom, h => by
    change c.leaveStopped.2 = _ at h
    unfold leaveStopped at h
    split at h <;> cases h
  | .recover intent, h => by
    obtain ⟨request, rfl, -⟩ := recoverStopped_wait h
    rfl

/-- **The gate's holder waits for an answer after a `send` only**, and as long as it does nothing else holds the gate. -/
theorem step_sent {host : Host} {s t : Sys} {l : Label} {await : Await} (h : step host s l = some t)
    (hg : t.controller.gate = some await) (hsent : await.sent = true) :
    beside l = true ∨ ∃ id, l = .send id := by
  cases l with
  | send id => exact .inr ⟨id, rfl⟩
  | enter i scene =>
    simp only [step] at h
    split at h
    · cases h
      rw [enter_unsent (resume_gate hg).1] at hsent
      cases hsent
    · cases h
  | clientReady =>
    simp only [step] at h
    split at h
    · cases h
      cases hg
      cases hsent
    · cases h
  | startFails launched outcome e | stopFails outcome e | throws e =>
    simp only [step] at h
    split at h
    · cases h
      cases (resume_gate hg).1
    · cases h
  | deliver =>
    simp only [step] at h
    split at h
    · split at h
      · cases h
      · cases h
        have hwait := (resume_gate hg).1
        split at hwait
        · cases hwait
        · rcases answered_wait hwait with hopened | ⟨-, rfl⟩
          · rw [unsent_of_opened hopened] at hsent
            cases hsent
          · cases hsent
    · cases h
  | stopped =>
    simp only [step] at h
    split at h
    · cases h
      rw [stopped_unsent (resume_gate hg).1] at hsent
      cases hsent
    · cases h
  | written =>
    simp only [step] at h
    split at h
    · cases h
      rw [unsent_of_opened (copy_wait (resume_gate hg).1)] at hsent
      cases hsent
    · cases h
      cases (resume_gate hg).1
    · cases h
  | _ => exact .inl rfl

theorem step_wired {host : Host} {s t : Sys} {l : Label} (hs : s.Wired) (h : step host s l = some t) : t.Wired := by
  intro call client id hg
  rcases step_sent h hg rfl with hl | ⟨id', rfl⟩
  · have hgate := (step_beside hl h).gate ▸ hg
    obtain ⟨hinbox, hresponses⟩ := hs call client id hgate
    have hmono : ∀ {log more : List Effect}, log = s.log ++ more → ∀ response ∈ s.helper.responses,
        response.id = id → AnswersIn log call.request response := by
      rintro log more rfl response hin hid
      obtain ⟨room, answers, ha⟩ := hresponses response hin hid
      exact ⟨room, answers, List.mem_append_left _ ha⟩
    rcases beside_wire hl h with ⟨hi, hr, more, hlog⟩ | ⟨headId, request, answers, hi, hr, hlog⟩
    · exact ⟨hi ▸ hinbox, hr ▸ hmono hlog⟩
    · refine ⟨fun entry he => hinbox entry (hi ▸ List.mem_cons_of_mem _ he), fun response hin hid => ?_⟩
      rw [hr] at hin
      rcases List.mem_append.1 hin with hin | hin
      · exact hmono hlog response hin hid
      · -- the new response answers the request its id came with
        rw [List.mem_singleton] at hin
        subst hin
        rw [handle_id] at hid
        have hrequest : request = call.request := hinbox (headId, request) (hi ▸ List.mem_cons_self) hid
        rw [← hrequest, hlog]
        exact ⟨_, answers, List.mem_append_right _ (List.mem_singleton.2 rfl)⟩
  · simp only [step] at h
    split at h
    · split at h
      · rename_i hsend
        cases h
        cases hg
        obtain ⟨hinbox, hresponses⟩ := (fresh_iff _ _).1 hsend.2
        refine ⟨fun entry hin hid => ?_, fun response hin hid => absurd hid (hresponses response hin)⟩
        rcases List.mem_append.1 hin with hin | hin
        · exact absurd hid (hinbox entry hin)
        · rw [List.mem_singleton] at hin
          rw [hin]
      · cases h
    · cases h

/-- **One step keeps every intent earned.** -/
theorem step_recoverable {host : Host} {s t : Sys} {l : Label} (hs : s.Recoverable) (h : step host s l = some t) :
    t.Recoverable :=
  ⟨traced_of_step (step_traced hs h) h, step_wired hs.wired h⟩

theorem recoverable_init : init.Recoverable where
  traced := ⟨fun _ h => (by cases h), fun _ h => (by cases h), fun _ h => (by cases h)⟩
  wired _ _ _ h := by cases h

end Sys

/-! ## The rooms that were opened -/

/-- The response came from a room service that handled the request. -/
def Effect.Handled : Effect → Prop
  | .answered request _ answers response => ∃ svc id, response = (RoomService.handle svc id request answers).2
  | _ => True

/-- What a recovery of the room that `request` opened asks for: the same create, or the code of the room the backend
entered and the session the Helper took. -/
def HelperRequest.ReopenedBy (answers : BackendAnswers) (reopening : HelperRequest) : HelperRequest → Prop
  | .create request => reopening = .create request
  | .join request => ∃ room code session, answers.room = .ok room ∧ normalizeRoomCode room.roomCode = .ok code ∧
      validateOption validateSessionId request.gameSessionId = .ok session ∧
      reopening = .join { roomCode := code, gameSessionId := session }
  | _ => False

theorem respond_ok {α : Type} {id : String} {request : HelperRequest} {payload : α → Json.Value}
    {result : Except RoomError α} (h : (respond id request payload result).messageType = request.responseType) :
    ∃ a, result = .ok a ∧ respond id request payload result = .response id request.responseType (payload a) := by
  cases result with
  | ok a => exact ⟨a, rfl, rfl⟩
  | error error =>
    have hno : "error" ≠ request.responseType := by
      cases request <;> simp [HelperRequest.responseType]
    exact absurd h hno

theorem openFinish_ok {svc : RoomService} {role : RoomRole} {gameSessionId : Option String} {require : Bool}
    {answer : Except RoomError BackendRoom} {snapshot : RoomSnapshot}
    (h : (svc.openFinish role gameSessionId require answer).2 = .ok snapshot) :
    ∃ room code, answer = .ok room ∧ normalizeRoomCode room.roomCode = .ok code ∧ snapshot.roomCode = some code ∧
      snapshot.gameSessionId = gameSessionId := by
  unfold RoomService.openFinish at h
  split at h
  · cases h
  · rename_i checked hchecked
    cases h
    cases answer with
    | error e => cases hchecked
    | ok room =>
      change validateBackendRoom room require = .ok checked at hchecked
      unfold validateBackendRoom at hchecked
      simp only [bind, Except.bind, pure, Except.pure] at hchecked
      split at hchecked
      · cases hchecked
      · rename_i code hcode
        split at hchecked
        · cases hchecked
        · split at hchecked
          · cases hchecked
          · cases hchecked
            exact ⟨room, code, rfl, hcode, rfl, rfl⟩

/-- **The room of a join that succeeded** has the code of the room the backend entered, and the session as it was checked. -/
theorem join_ok {svc : RoomService} {request : JoinRoomRequest} {answer : Except RoomError BackendRoom}
    {snapshot : RoomSnapshot} (h : (svc.join request answer).2 = .ok snapshot) :
    ∃ room code, answer = .ok room ∧ normalizeRoomCode room.roomCode = .ok code ∧ snapshot.roomCode = some code ∧
      validateOption validateSessionId request.gameSessionId = .ok snapshot.gameSessionId := by
  unfold RoomService.join at h
  rw [ServiceCall.joinBegin_eq] at h
  unfold checkJoin at h
  simp only [bind, Except.bind, pure, Except.pure] at h
  cases hcode : normalizeRoomCode request.roomCode with
  | error e => rw [hcode] at h; cases h
  | ok typed =>
    cases hsession : validateOption validateSessionId request.gameSessionId with
    | error e => rw [hcode, hsession] at h; cases h
    | ok session =>
      rw [hcode, hsession] at h
      by_cases hidle : svc.state.state = .idle
      · simp only [if_pos hidle] at h
        obtain ⟨room, code, hroom, hcode, hsnapshot, hid⟩ := openFinish_ok h
        exact ⟨room, code, hroom, hcode, hsnapshot, by rw [hid]⟩
      · simp only [if_neg hidle] at h
        cases h

theorem read_toContract {snapshot : RoomSnapshot} {id messageType : String} {connected : TerracottaRoomSnapshot}
    (h : responseSnapshot (.response id messageType snapshot.toValue) = some connected) : connected = snapshot.toContract := by
  change TerracottaRoomSnapshot.read Json.Options.web snapshot.toValue = _ at h
  rw [RoomSnapshot.read_web] at h
  split at h
  · exact (Option.some.inj h).symm
  · cases h

theorem validateOption_or {α β : Type} {check : α → Except RoomError β} {value : Option α} {checked other : Option β}
    (h : validateOption check value = .ok checked) (hother : value = none → other = none) : checked.or other = checked := by
  cases value with
  | none =>
    cases h
    rw [hother rfl]
    rfl
  | some a =>
    simp only [validateOption] at h
    cases hc : check a with
    | error e => rw [hc] at h; cases h
    | ok b => rw [hc] at h; cases h; rfl

/-- **What an earned intent asks for** is the room that was opened. -/
theorem reopenedBy_of_intent {svc : RoomService} {id : String} {answers : BackendAnswers} {reopening : HelperRequest}
    {connected : TerracottaRoomSnapshot} {intent : RecoveryIntent} : ∀ {request : HelperRequest},
    (svc.handle id request answers).2.messageType = request.responseType →
      responseSnapshot (svc.handle id request answers).2 = some connected → request.intent connected = some intent →
        intent.request = some reopening → reopening.ReopenedBy answers request
  | .create request, _, _, hintent, hrequest => by
    cases hintent
    cases hrequest
    rfl
  | .join request, htype, hread, hintent, hrequest => by
    obtain ⟨snapshot, hok, hrespond⟩ := respond_ok htype
    obtain ⟨room, code, hroom, hcode, hsnapshot, hsession⟩ := join_ok hok
    have hresponse : (svc.handle id (.join request) answers).2 = .response id "room.joined" snapshot.toValue := hrespond
    have hconnected : connected = snapshot.toContract := read_toContract (hresponse ▸ hread)
    have hor : snapshot.gameSessionId.or request.gameSessionId = snapshot.gameSessionId :=
      validateOption_or hsession (fun h => h)
    cases hintent
    simp only [RecoveryIntent.request, hconnected, RoomSnapshot.toContract, hsnapshot, hor] at hrequest
    cases hrequest
    exact ⟨room, code, _, hroom, hcode, hsession, rfl⟩
  | .leave, _, _, hintent, _ => by cases hintent
  | .status, _, _, hintent, _ => by cases hintent
  | .diagnose, _, _, hintent, _ => by cases hintent

namespace Sys

theorem step_handled {host : Host} {s t : Sys} {l : Label} (h : step host s l = some t) :
    ∃ effects, t.log = s.log ++ effects ∧ ∀ e ∈ effects, e.Handled := by
  rcases step_log h with hlog | ⟨e, hlog, he⟩
  · exact ⟨[], by rw [hlog, List.append_nil], fun _ h => by cases h⟩
  · refine ⟨[e], hlog, fun e' hin => ?_⟩
    rw [List.mem_singleton] at hin
    subst hin
    cases e' with
    | answered request room answers response =>
      obtain ⟨id, rest, -, -, hresponse⟩ := he
      exact ⟨_, id, hresponse⟩
    | launched | createCalled | sent request room => trivial

end Sys

open Sys in
/-- **A recovery opens a room that was open before**: in every run, whatever happens between the crash and the recovery,
its request is the create that a Helper answered with a room, or the join of the room that a Helper entered.  And what is
read for a call is the Helper's answer to that call's request. -/
theorem recovery_reopens_an_opened_room (host : Host) (labels : List Label) (s : Sys)
    (hrun : Run.run (step host) init labels = some s) :
    (∀ reopening phase, s.controller.gate = some (.calling (.recover reopening) phase) →
      ∃ request room answers response, .answered request room answers response ∈ s.log ∧
        response.messageType = request.responseType ∧ reopening.ReopenedBy answers request) ∧
    ∀ call client id response, s.controller.gate = some (.calling call (.sent client id)) →
      s.helper.responses.find? (fun response => response.id = id) = some response →
        AnswersIn s.log call.request response := by
  have hs : s.Recoverable := Run.invariant_all Recoverable (fun _ _ _ => step_recoverable) recoverable_init hrun
  obtain ⟨effects, hlog, hhandled⟩ := Run.grows Sys.log (fun _ => True) Effect.Handled
    (fun s l t _ (_ : True) h => ⟨trivial, step_handled h⟩) trivial
    (Run.along_of_forall (fun _ _ => trivial) Sys.init labels) hrun
  refine ⟨fun reopening phase hgate => ?_, fun call client id response hgate hfind =>
    (hs.wired call client id hgate).2 response (List.mem_of_find?_eq_some hfind) (by simpa using List.find?_some hfind)⟩
  obtain ⟨intent, ⟨request, connected, ⟨room, answers, response, hin, htype, hread⟩, hintent⟩, hrequest⟩ :=
    hs.traced.gate _ hgate
  obtain ⟨svc, id, hresponse⟩ := hhandled _ (by rw [hlog] at hin; exact hin)
  subst hresponse
  exact ⟨request, room, answers, _, hin, htype, reopenedBy_of_intent htype hread hintent hrequest⟩

/-- A room is open, its Helper ends, and the recovery is about to send. -/
def recoverRoom : List Label :=
  createRoom ++ [.processExit 1, .processEnded 0 100000000, .report 0, .begin 1, .enter 0 sampleScene, .stopped, .clientReady]

open Sys in
theorem created_room_is_reopened : ∃ s reopening phase, Run.run (step sampleHost) init recoverRoom = some s ∧
    s.controller.gate = some (.calling (.recover reopening) phase) ∧
    ∃ request room answers response, .answered request room answers response ∈ s.log ∧
      response.messageType = request.responseType ∧ reopening.ReopenedBy answers request := by
  have hall : (Run.run (step sampleHost) init recoverRoom).any (fun s => s.controller.gate =
      some (.calling (.recover (.create ⟨"session-1", "127.0.0.1:25565", true, true⟩)) (.initializing 2))) = true := by
    decide +kernel
  obtain ⟨s, hs, hgate⟩ := (Option.any_eq_true _ _).1 hall
  have hgate := of_decide_eq_true hgate
  exact ⟨s, _, _, hs, hgate, (recovery_reopens_an_opened_room sampleHost recoverRoom s hs).1 _ _ hgate⟩

end Terracotta
