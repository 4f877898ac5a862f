import Terracotta.OneIdentity
/-!
# The gateway and the sessions it talks to

Each client of the gateway is connected to the session of one Helper.  A session reads the frames of its client one after
another, and its loop does what else it does in between; the gateway reads what a session has written.  By the time a
session reads a request to enter a room it has the plugin's one identity.
-/
namespace Terracotta

open Json (Value structFields readString readBool readOptionString)

/-! ## Requests as the Helper reads them -/

/-- **The dispatch reads every request of the gateway as the call it stands for.** -/
theorem dispatch_envelope (request : RoomRequest) (id : String)
    (hkey : ∀ key, request = .initializeIdentity key → key.length = 32) :
    (request.envelope id).dispatch = .call request := by
  cases request with
  | initializeIdentity key =>
    have hread : identityFromValue (RoomRequest.envelope (.initializeIdentity key) id).payload = some (toHexString key) :=
      rfl
    have hdecode : decodeIdentity (toHexString key) = some key := by
      obtain ⟨hlen, hdigits, hbytes⟩ := toHexString_digits key
      have htext : IsKeyText (toHexString key) := ⟨by rw [hlen, hkey key rfl], hdigits⟩
      rw [(decodeIdentity_keyText htext).1, hbytes]
    unfold Envelope.dispatch
    rw [if_pos (show (RoomRequest.envelope (.initializeIdentity key) id).messageType = "identity.initialize" from rfl),
      hread]
    simp only [hdecode]
  | join request =>
    obtain ⟨roomCode, gameSessionId⟩ := request
    cases gameSessionId <;> rfl
  | status | leave | create request | setLanAddress request | diagnose => rfl

theorem identity_is_dispatched :
    ((RoomRequest.initializeIdentity HelperRoomGateway.sampleKey.toList).envelope "1").dispatch =
      .call (.initializeIdentity HelperRoomGateway.sampleKey.toList) :=
  dispatch_envelope _ _ fun _ h => by cases h; rfl

/-! ## What a session writes -/

namespace Session

variable {w : Wiring} {s t : Session}

theorem write_frames (w : Wiring) (s : Session) (e : Envelope) (outcome : Option SessionOutcome) :
    (s.write w e outcome).frames = s.frames ∨ (s.write w e outcome).frames = s.frames ++ [e] := by
  unfold write
  cases writeFrame w.toVec e with
  | error error => exact .inl rfl
  | ok bytes =>
    simp only
    split <;> split
    · exact .inr rfl
    · exact .inl rfl
    · exact .inr rfl
    · exact .inl rfl

/-- A session that has said that it is initialized has an identity. -/
def Honest (s : Session) : Prop := ∀ e ∈ s.frames, e.messageType = "identity.initialized" → s.identity ≠ none

/-- A write that does not say so, or says so with an identity, in a session whose frames are those of an honest one. -/
theorem Honest.write {s' : Session} (h : s.Honest) (hframes : s'.frames = s.frames)
    (hidentity : s.identity ≠ none → s'.identity ≠ none) {e : Envelope}
    (he : e.messageType = "identity.initialized" → s'.identity ≠ none) {outcome : Option SessionOutcome} :
    (s'.write w e outcome).Honest := by
  have hsame : (s'.write w e outcome).identity = s'.identity := by
    obtain ⟨frames, torn, ended, heq⟩ := write_frame w s' e outcome
    rw [heq]
  intro x hx htype
  rw [hsame]
  rcases write_frames w s' e outcome with heq | heq <;> rw [heq, hframes] at hx
  · exact hidentity (h x hx htype)
  · rcases List.mem_append.1 hx with hx | hx
    · exact hidentity (h x hx htype)
    · exact he (List.mem_singleton.1 hx ▸ htype)

theorem reply_type {α : Type} (id messageType : String) (payload : α → Value) (result : Except RoomError α) :
    (reply id messageType payload result).messageType = messageType ∨
      (reply id messageType payload result).messageType = "error" := by
  cases result
  · exact .inr rfl
  · exact .inl rfl

theorem serve_type (room : RoomService) (id : String) (answers : SessionAnswers) (call : RoomRequest)
    (htype : (room.serve id answers call).2.messageType = "identity.initialized") : call.initializes = true := by
  have hreply : ∀ {α : Type} {messageType : String} {payload : α → Value} {result : Except RoomError α},
      messageType ≠ "identity.initialized" →
        (reply id messageType payload result).messageType ≠ "identity.initialized" := by
    intro α messageType payload result hne heq
    rcases reply_type id messageType payload result with h | h <;> rw [h] at heq
    · exact hne heq
    · exact absurd heq (by decide)
  cases call with
  | initializeIdentity key => rfl
  | status => exact absurd htype (by simp [RoomService.serve, Envelope.response])
  | leave | create request | join request | setLanAddress request | diagnose => exact absurd htype (hreply (by decide))

theorem handleRequest_honest (w : Wiring) (h : s.Honest) (request : Envelope) (answers : SessionAnswers) :
    (s.handleRequest w request answers).Honest := by
  have herror : ∀ (s' : Session) (code message : String) (outcome : Option SessionOutcome), s'.frames = s.frames →
      s'.identity = s.identity → (s'.write w (errorReply request.id code message false) outcome).Honest :=
    fun s' code message outcome hframes hidentity =>
      h.write hframes (fun hi => hidentity ▸ hi) (fun he => absurd he (by simp [errorReply, Envelope.response]))
  unfold handleRequest
  split
  · exact herror s _ _ _ rfl rfl
  split
  · exact herror s _ _ _ rfl rfl
  split
  · exact herror s _ _ _ rfl rfl
  split
  · exact herror s _ _ _ rfl rfl
  simp only
  split
  · refine herror _ _ _ _ ?_ ?_ <;> rfl
  unfold dispatch
  simp only
  cases request.dispatch with
  | call call =>
    simp only [serve]
    refine Honest.write h ?_ (fun hi => ?_) (fun he => ?_)
    · rfl
    · cases call <;> first | exact hi | exact Option.some_ne_none _
    · have hcall := serve_type _ _ _ _ he
      cases call <;> first | exact Option.some_ne_none _ | cases hcall
  | refuse code message => refine herror _ _ _ _ ?_ ?_ <;> rfl
  | shutdown =>
    refine Honest.write h ?_ ?_ ?_
    · rfl
    · exact fun hi => hi
    · exact fun he => absurd he (by simp [Envelope.response])

theorem step_honest {label : SessionLabel} (h : s.Honest) (hstep : step w s label = some t) : t.Honest := by
  unfold step at hstep
  cases hended : s.ended with
  | some _ => rw [hended] at hstep; cases hstep
  | none =>
    rw [hended] at hstep
    cases label with
    | request request answers =>
      cases hstep
      exact handleRequest_honest w h request answers
    | readError error => cases error <;> cases hstep <;> exact h
    | tick refresh => cases hstep; exact h
    | event event =>
      have ht := Option.some.inj hstep
      rw [← ht]
      refine Honest.write h ?_ ?_ ?_
      · rfl
      · exact fun hi => hi
      · cases event <;> exact fun he => absurd he (by simp [writeEvent, RoomEvent.messageType])
    | lagged | closed => cases hstep; exact h

/-- Where an identity comes from: it stays, and a new one is that of the request that was read. -/
theorem step_identity {label : SessionLabel} (hstep : step w s label = some t) :
    t.identity = s.identity ∨ ∃ request answers key, label = .request request answers ∧
      request.dispatch = .call (.initializeIdentity key) ∧ t.identity = some key := by
  rcases step_books hstep with ⟨request, answers, hlabel, hhandled⟩ | ⟨room, hroom⟩
  · have hidentity : t.identity = t.books.identity := rfl
    rw [hidentity]
    generalize t.books = b at hhandled
    cases hhandled with
    | ignored hrefused => exact .inl rfl
    | noted hrefused hfew hnew => exact .inl rfl
    | dispatched hpassed => exact .inl rfl
    | called hpassed call hcall =>
      cases call with
      | initializeIdentity key => exact .inr ⟨request, answers, key, hlabel, hcall, rfl⟩
      | status | leave | create _ | join _ | setLanAddress _ | diagnose => exact .inl rfl
  · exact .inl (congrArg Books.identity hroom)

theorem step_keeps_identity {label : SessionLabel} (hstep : step w s label = some t) (h : s.identity ≠ none) :
    t.identity ≠ none := by
  rcases step_identity hstep with heq | ⟨_, _, key, -, -, heq⟩
  · rwa [heq]
  · rw [heq]
    exact Option.some_ne_none key

end Session

/-! ## Gateway and sessions -/

/-- The gateway, the sessions of its clients and the frames they have not read, each with its id; `lastId` is that of the
frame written last, and `reads` what sessions have read, with the identity they had when they did. -/
structure Linked where
  gateway : HelperRoomGateway
  lastId : String
  unread : List (Nat × String × RoomRequest)
  sessions : Nat → Session
  reads : List (Nat × RoomRequest × Option (List UInt8))

inductive LinkedLabel where
  | gateway (l : GatewayLabel) (id : String)
  | reads (client : Nat) (answers : SessionAnswers)
  | turns (client : Nat) (label : SessionLabel)

def GatewayEvent.frame (id : String) : GatewayEvent → Option (Nat × String × RoomRequest)
  | .wrote client request => some (client, id, request)
  | .initialized _ => none

namespace Linked

def init (storage : Option (Option (List UInt8))) (helloId : Nat → String) : Linked :=
  ⟨.init storage, "", [], fun client => .opened .new (helloId client), []⟩

/-- The reply the gateway waits for is there. -/
def replied (s : Linked) : Bool :=
  match s.gateway.call with
  | some (_, .identified client _) => (s.sessions client).frames.any
      (fun e => decide (e.id = s.lastId) && decide (e.messageType = "identity.initialized"))
  | _ => false

def step (w : Wiring) (s : Linked) : LinkedLabel → Option Linked
  | .gateway l id => match s.gateway.step l with
    | none => none
    | some gateway =>
      if l = .identityAnswered true ∧ s.replied = false then none
      else
        let frames := (gateway.log.drop s.gateway.log.length).filterMap (GatewayEvent.frame id)
        some { s with gateway, unread := s.unread ++ frames, lastId := if frames = [] then s.lastId else id }
  | .reads client answers => match s.unread.find? (fun frame => frame.1 = client) with
    | none => none
    | some (_, id, request) => match (s.sessions client).step w (.request (request.envelope id) answers) with
      | none => none
      | some session => some { s with
          unread := s.unread.eraseP (fun frame => frame.1 = client)
          sessions := Function.update s.sessions client session
          reads := s.reads ++ [(client, request, (s.sessions client).identity)] }
  | .turns _ (.request _ _) => none
  | .turns client label => match (s.sessions client).step w label with
    | none => none
    | some session => some { s with sessions := Function.update s.sessions client session }

def Survives (s : Linked) : LinkedLabel → Prop
  | .gateway l _ => s.gateway.Survives l
  | _ => True

instance (s : Linked) : (l : LinkedLabel) → Decidable (s.Survives l)
  | .gateway l _ => inferInstanceAs (Decidable (s.gateway.Survives l))
  | .reads _ _ | .turns _ _ => .isTrue trivial

/-- **What gateway and sessions know of each other.** -/
structure Met (s : Linked) : Prop where
  introduces : s.gateway.Introduces
  handles : s.gateway.Handles
  sent : s.gateway.Sent
  unread : ∀ client id request, (client, id, request) ∈ s.unread → .wrote client request ∈ s.gateway.log
  honest : ∀ client, (s.sessions client).Honest
  known : ∀ client, .initialized client ∈ s.gateway.log → (s.sessions client).identity ≠ none
  given : ∀ client key, (s.sessions client).identity = some key → .wrote client (.initializeIdentity key) ∈ s.gateway.log
  reads : ∀ client request identity, (client, request, identity) ∈ s.reads →
    (request.opens = true → identity ≠ none) ∧
      ∀ key, identity = some key → .wrote client (.initializeIdentity key) ∈ s.gateway.log

theorem init_met (storage : Option (Option (List UInt8))) (helloId : Nat → String) : (init storage helloId).Met where
  introduces := HelperRoomGateway.init_introduces storage
  handles := HelperRoomGateway.init_handles storage
  sent client key h := by cases h
  unread client id request h := by cases h
  honest client e he htype := by
    rw [List.mem_singleton.1 he] at htype
    exact absurd htype (by simp [helloAccepted, Envelope.response])
  known client h := by cases h
  given client key h := by cases h
  reads client request identity h := by cases h

variable {w : Wiring} {s t : Linked}

/-- A session's step that keeps what the others know: it reads nothing, or a frame of its client. -/
theorem Met.session (h : s.Met) {client : Nat} {label : SessionLabel} {session : Session}
    (hstep : (s.sessions client).step w label = some session)
    (hlabel : ∀ request answers key, label = .request request answers →
      request.dispatch = .call (.initializeIdentity key) → .wrote client (.initializeIdentity key) ∈ s.gateway.log)
    (hgateway : t.gateway = s.gateway) (hsessions : t.sessions = Function.update s.sessions client session)
    (hunread : t.unread ⊆ s.unread)
    (hreads : t.reads = s.reads ∨ ∃ request, .wrote client request ∈ s.gateway.log ∧
      t.reads = s.reads ++ [(client, request, (s.sessions client).identity)]) : t.Met where
  introduces := hgateway ▸ h.introduces
  handles := hgateway ▸ h.handles
  sent := hgateway ▸ h.sent
  unread c id request hm := hgateway ▸ h.unread c id request (hunread hm)
  honest c := by
    rw [hsessions]
    by_cases hc : c = client
    · rw [hc, Function.update_self]
      exact Session.step_honest (h.honest client) hstep
    · rw [Function.update_of_ne hc]
      exact h.honest c
  known c hm := by
    rw [hgateway] at hm
    rw [hsessions]
    by_cases hc : c = client
    · rw [hc, Function.update_self]
      exact Session.step_keeps_identity hstep (h.known client (hc ▸ hm))
    · rw [Function.update_of_ne hc]
      exact h.known c hm
  given c key hkey := by
    rw [hgateway]
    rw [hsessions] at hkey
    by_cases hc : c = client
    · rw [hc, Function.update_self] at hkey
      rw [hc]
      rcases Session.step_identity hstep with heq | ⟨request, answers, key', hl, hdispatch, heq⟩
      · exact h.given client key (heq ▸ hkey)
      · cases heq.symm.trans hkey
        exact hlabel request answers key hl hdispatch
    · rw [Function.update_of_ne hc] at hkey
      exact h.given c key hkey
  reads c request identity hm := by
    rw [hgateway]
    rcases hreads with hreads | ⟨r, hwrote, hreads⟩ <;> rw [hreads] at hm
    · exact h.reads c request identity hm
    · rcases List.mem_append.1 hm with hm | hm
      · exact h.reads c request identity hm
      · cases List.mem_singleton.1 hm
        refine ⟨fun hopens => h.known client ?_, h.given client⟩
        obtain ⟨before, after, hsplit⟩ := List.append_of_mem hwrote
        have hfollows := h.introduces.log before _ after hsplit
        rw [hsplit]
        cases request with
        | initializeIdentity _ | status | leave | setLanAddress _ | diagnose => cases hopens
        | create _ | join _ => exact List.mem_append_left _ hfollows

theorem step_met (l : LinkedLabel) (h : s.Met) (hl : s.Survives l) (hstep : step w s l = some t) : t.Met := by
  cases l with
  | gateway gl id =>
    simp only [step] at hstep
    split at hstep
    · cases hstep
    rename_i gateway hgateway
    split at hstep
    · cases hstep
    rename_i hreplied
    cases hstep
    obtain ⟨events, hlog, hinitialized⟩ := HelperRoomGateway.step_log gl h.handles.own hgateway
    have hold : ∀ event ∈ s.gateway.log, event ∈ gateway.log := fun event hm => hlog ▸ List.mem_append_left _ hm
    exact {
      introduces := HelperRoomGateway.step_introduces gl h.introduces hgateway
      handles := HelperRoomGateway.step_handles gl h.handles hgateway
      sent := HelperRoomGateway.step_sent gl h.handles h.sent hl hgateway
      unread := fun c i request hm => by
        rcases List.mem_append.1 hm with hm | hm
        · exact hold _ (h.unread c i request hm)
        · obtain ⟨event, hevent, hframe⟩ := List.mem_filterMap.1 hm
          cases event with
          | wrote client request' =>
            cases hframe
            exact List.mem_of_mem_drop hevent
          | initialized client => cases hframe
      honest := h.honest
      known := fun c hm => by
        have hm : GatewayEvent.initialized c ∈ gateway.log := hm
        rw [hlog] at hm
        rcases List.mem_append.1 hm with hm | hm
        · exact h.known c hm
        · -- the gateway has read what the session wrote
          obtain ⟨hanswered, request, array, hcall⟩ := hinitialized c hm
          have hreply : s.replied = true := by
            by_contra hno
            exact hreplied ⟨hanswered, by simpa using hno⟩
          unfold replied at hreply
          rw [hcall] at hreply
          obtain ⟨e, he, htype⟩ := List.any_eq_true.1 hreply
          simp only [Bool.and_eq_true, decide_eq_true_eq] at htype
          exact h.honest c e he htype.2
      given := fun c key hkey => hold _ (h.given c key hkey)
      reads := fun c request identity hm =>
        ⟨(h.reads c request identity hm).1, fun key hkey => hold _ ((h.reads c request identity hm).2 key hkey)⟩ }
  | reads client answers =>
    simp only [step] at hstep
    split at hstep
    · cases hstep
    rename_i client' id request hfind
    have hclient : client' = client := by simpa using List.find?_some hfind
    subst hclient
    have hwrote := h.unread _ _ _ (List.mem_of_find?_eq_some hfind)
    split at hstep
    · cases hstep
    rename_i session hsession
    cases hstep
    refine h.session hsession (fun r a key hlabel hdispatch => ?_) rfl rfl
      (List.eraseP_subset) (.inr ⟨request, hwrote, rfl⟩)
    cases hlabel
    rw [dispatch_envelope request id fun k hk => (h.sent client' k (hk ▸ hwrote)).2] at hdispatch
    cases hdispatch
    exact hwrote
  | turns client label =>
    cases label with
    | request request answers => cases hstep
    | readError error | tick refresh | event event | lagged | closed =>
      simp only [step] at hstep
      split at hstep
      · cases hstep
      rename_i session hsession
      cases hstep
      exact h.session hsession (fun r a key hlabel => by cases hlabel) rfl rfl (List.Subset.refl _) (.inl rfl)

/-- **Every session that reads a create or a join has the plugin's identity by then, and it is the same one in all of
them**: over every interleaving of calls, cancellations, restarts and crashes with whatever the sessions do. -/
theorem rooms_are_entered_with_one_identity (w : Wiring) (storage : Option (Option (List UInt8)))
    (helloId : Nat → String) (labels : List LinkedLabel) (s : Linked)
    (hlabels : Run.Along (step w) Survives (init storage helloId) labels)
    (h : Run.run (step w) (init storage helloId) labels = some s) (client : Nat) (request : RoomRequest)
    (identity : Option (List UInt8)) (hread : (client, request, identity) ∈ s.reads) (hopens : request.opens = true) :
    ∃ key, identity = some key ∧ key.length = 32 ∧
      ∀ client' request' key', (client', request', some key') ∈ s.reads → key' = key := by
  have hs : s.Met := Run.invariant Met (fun s l t hi hl ht => step_met l hi hl ht) (init_met storage helloId) hlabels h
  obtain ⟨key, hkey⟩ := Option.ne_none_iff_exists'.1 ((hs.reads client request identity hread).1 hopens)
  obtain ⟨hholds, hlen⟩ := hs.sent client key ((hs.reads client request identity hread).2 key hkey)
  refine ⟨key, hkey, hlen, fun client' request' key' hread' => ?_⟩
  exact (hs.sent client' key' ((hs.reads client' request' _ hread').2 key' rfl)).1.unique hholds

/-- A member joins: the identity is sent and read, then the join. -/
def joinOnce : List LinkedLabel :=
  [.gateway (.call (.join ⟨"AB12-CD34-EF56", none⟩)) "", .gateway (.started HelperRoomGateway.sampleKey) "",
    .gateway (.read HelperRoomGateway.sampleKey .notFound) "", .gateway (.written .success) "",
    .gateway .sendIdentity "1", .reads 1 Session.silentAnswers, .gateway (.identityAnswered true) "",
    .gateway .sendRequest "2", .turns 1 (.tick (.ok {})), .reads 1 Session.silentAnswers]

theorem join_is_read_with_identity : ∃ s,
    Run.run (step Session.openWiring) (init (some none) (fun _ => "hello")) joinOnce = some s ∧
      (1, .join ⟨"AB12-CD34-EF56", none⟩, some HelperRoomGateway.sampleKey.toList) ∈ s.reads ∧
      ∀ client' request' key', (client', request', some key') ∈ s.reads → key' = HelperRoomGateway.sampleKey.toList := by
  have hrun : (Run.run (step Session.openWiring) (init (some none) (fun _ => "hello")) joinOnce).any
      (fun s => decide ((1, .join ⟨"AB12-CD34-EF56", none⟩, some HelperRoomGateway.sampleKey.toList) ∈ s.reads)) = true := by
    decide +kernel
  obtain ⟨s, hs, hread⟩ := (Option.any_eq_true _ _).1 hrun
  have hlabels : Run.Along (step Session.openWiring) Survives (init (some none) (fun _ => "hello")) joinOnce := by
    decide +kernel
  obtain ⟨key, hkey, -, hone⟩ := rooms_are_entered_with_one_identity _ _ _ joinOnce s hlabels hs 1 _ _
    (of_decide_eq_true hread) rfl
  cases hkey
  exact ⟨s, hs, of_decide_eq_true hread, hone⟩

end Linked

end Terracotta
