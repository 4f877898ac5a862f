import Terracotta.OpenRequests
/-!
# Recovery intents

A create or a join that opened a room leaves an intent behind, and `RecoverAfterHelperCrashAsync` turns an intent into a
request.  `Traced` follows the intents through the pieces of the controller's methods: the one it keeps, those of the
recoveries behind the gate, and that of the recovery that holds it.
-/
namespace Terracotta

open TerracottaController Sys

/-! ## Intents -/

/-- The intent the controller keeps of the room a request opened. -/
def HelperRequest.intent (connected : TerracottaRoomSnapshot) : HelperRequest → Option RecoveryIntent
  | .create request => some
      { role := .host, roomCode := connected.roomCode, gameSessionId := some request.gameSessionId
        lanAddress := some request.lanAddress, preferDirect := request.preferDirect, allowRelay := request.allowRelay }
  | .join request => some
      { role := .member, roomCode := connected.roomCode.or (some request.roomCode)
        gameSessionId := connected.gameSessionId.or request.gameSessionId, lanAddress := connected.localAddress
        preferDirect := true, allowRelay := true }
  | _ => none

/-- What the recovery of an intent sends. -/
def RecoveryIntent.request (intent : RecoveryIntent) : Option HelperRequest :=
  if intent.role = .host then do
    let gameSessionId ← intent.gameSessionId
    let lanAddress ← intent.lanAddress
    return .create { gameSessionId, lanAddress, preferDirect := intent.preferDirect, allowRelay := intent.allowRelay }
  else do
    let roomCode ← intent.roomCode
    return .join { roomCode, gameSessionId := intent.gameSessionId }

/-- A Helper answered `request` with a room, and the plugin read the answer as `connected`. -/
def OpenedIn (log : List Effect) (request : HelperRequest) (connected : TerracottaRoomSnapshot) : Prop :=
  ∃ room answers response, .answered request room answers response ∈ log ∧
    response.messageType = request.responseType ∧ responseSnapshot response = some connected

/-- The intent is that of a room which a Helper opened. -/
def Earned (log : List Effect) (intent : RecoveryIntent) : Prop :=
  ∃ request connected, OpenedIn log request connected ∧ request.intent connected = some intent

theorem Earned.mono {log more : List Effect} {intent : RecoveryIntent} (h : Earned log intent) :
    Earned (log ++ more) intent := by
  obtain ⟨request, connected, ⟨room, answers, response, hin, hread⟩, hintent⟩ := h
  exact ⟨request, connected, ⟨room, answers, response, List.mem_append_left _ hin, hread⟩, hintent⟩

/-- The recovery an await belongs to is that of an earned intent. -/
def Await.Traced (earned : RecoveryIntent → Prop) : Await → Prop
  | .stopping (.recover intent) => earned intent
  | .calling (.recover request) _ => ∃ intent, earned intent ∧ intent.request = some request
  | _ => True

theorem Await.traced_of_opened {earned : RecoveryIntent → Prop} : ∀ {await : Await}, await.opened = true →
    await.Traced earned
  | .saving _, _ | .copying, _ => trivial
  | .calling _ _, h | .stopping _, h => by cases h

/-- The holder of the gate waits for an answer. -/
def Await.sent : Await → Bool
  | .calling _ (.sent _ _) => true
  | _ => false

namespace TerracottaController

/-- Every intent the controller holds is earned: the one it keeps, those of the recoveries behind the gate, and that of
the recovery that holds it. -/
structure Traced (earned : RecoveryIntent → Prop) (c : TerracottaController) : Prop where
  recovery : ∀ intent, c.recovery = some intent → earned intent
  waiting : ∀ intent, .recover intent ∈ c.waiting → earned intent
  gate : ∀ await, c.gate = some await → await.Traced earned

section pieces

variable {earned : RecoveryIntent → Prop} {c : TerracottaController}

theorem Traced.mono {earned' : RecoveryIntent → Prop} (h : c.Traced earned)
    (himp : ∀ intent, earned intent → earned' intent) : c.Traced earned' where
  recovery intent hi := himp intent (h.recovery intent hi)
  waiting intent hi := himp intent (h.waiting intent hi)
  gate await hg := by
    have ht := h.gate await hg
    match await, ht with
    | .stopping (.recover intent), ht => exact himp intent ht
    | .calling (.recover request) _, ⟨intent, he, hr⟩ => exact ⟨intent, himp intent he, hr⟩
    | .stopping .leaveWaiting, _ | .stopping .leaveRoom, _ | .saving _, _ | .copying, _ | .calling (.create _ _ _) _, _
    | .calling (.join _ _) _, _ | .calling .leave _, _ | .calling (.refresh _) _, _ | .calling (.diagnose _ _) _, _ =>
      trivial

/-- What a piece of a traced controller has to show. -/
structure TracedPiece (earned : RecoveryIntent → Prop) (c : TerracottaController)
    (piece : TerracottaController × Outcome) : Prop where
  recovery : ∀ intent, piece.1.recovery = some intent → earned intent
  within : Within c piece.1
  await : ∀ await, piece.2 = .wait await → await.Traced earned

theorem caught_recovery (host : Host) (e : Exn) (c : TerracottaController) (handler : Handler) :
    (c.caught host e handler).recovery = c.recovery ∨ (c.caught host e handler).recovery = none := by
  cases handler with
  | faults | diagnose command =>
    simp only [caught, fault, publishFault_eq]
    split <;> exact .inl rfl
  | refresh poll =>
    simp only [caught]
    split <;> exact .inl rfl
  | recover =>
    simp only [caught, fault, publishFault_eq]
    split
    · exact .inl rfl
    · exact .inr rfl

theorem TracedPiece.resume {piece : TerracottaController × Outcome} (h : TracedPiece earned c piece) (hc : c.Traced earned)
    (host : Host) (handler : Handler) : (TerracottaController.resume host handler piece).Traced earned := by
  have hwithin := resume_within host handler h.within
  refine ⟨fun intent hi => ?_, fun intent hi => hc.waiting intent (hwithin.waiting.subset hi), fun await hg => ?_⟩
  · obtain ⟨d, await | _ | e⟩ := piece
    · exact h.recovery intent hi
    · cases handler <;> exact h.recovery intent hi
    · rcases caught_recovery host e d handler with hr | hr
      · exact h.recovery intent (hr.symm.trans hi)
      · exact absurd (hr.symm.trans hi) (fun h => by cases h)
  · obtain ⟨d, await' | _ | e⟩ := piece
    · cases hg
      exact h.await _ rfl
    · cases handler <;> cases hg
    · cases hg

theorem Traced.piece (hc : c.Traced earned) {piece : TerracottaController × Outcome} (hwithin : Within c piece.1)
    (hrecovery : piece.1.recovery = c.recovery ∨ piece.1.recovery = none)
    (hawait : ∀ await, piece.2 = .wait await → await.Traced earned) : TracedPiece earned c piece where
  recovery intent hi := by
    rcases hrecovery with hr | hr
    · exact hc.recovery intent (hr.symm.trans hi)
    · exact absurd (hr.symm.trans hi) (fun h => by cases h)
  within := hwithin
  await := hawait

/-! ## The pieces -/

theorem Traced.createEnter (hc : c.Traced earned) (host : Host) (scene : Scene) (request : TerracottaCreateRoomRequest) :
    TracedPiece earned c (c.createEnter host scene request) := by
  have hwithin : Within c (c.createEnter host scene request).1 := enter_within host scene c (.create request)
  have h := createEnter_enters host scene request c
  generalize c.createEnter host scene request = piece at h hwithin
  refine hc.piece hwithin (.inl (by cases h <;> rfl)) (fun await ha => ?_)
  cases h <;> cases ha
  trivial

theorem Traced.joinEnter (hc : c.Traced earned) (host : Host) (scene : Scene) (request : TerracottaJoinRoomRequest)
    (code : String) : TracedPiece earned c (c.joinEnter request code) := by
  have hwithin : Within c (c.joinEnter request code).1 := enter_within host scene c (.join request code)
  have h := joinEnter_enters request code c
  generalize c.joinEnter request code = piece at h hwithin
  refine hc.piece hwithin (.inl (by cases h <;> rfl)) (fun await ha => ?_)
  cases h <;> cases ha
  trivial

theorem Traced.leaveEnter (hc : c.Traced earned) (host : Host) (scene : Scene) : TracedPiece earned c c.leaveEnter := by
  have hwithin : Within c c.leaveEnter.1 := enter_within host scene c .leave
  have h := leaveEnter_enters c
  generalize c.leaveEnter = piece at h hwithin
  refine hc.piece hwithin (.inr (by cases h <;> rfl)) (fun await ha => ?_)
  cases h <;> cases ha <;> trivial

theorem diagnoseEnter_recovery (command : Bool) (c : TerracottaController) :
    (c.diagnoseEnter command).1.recovery = c.recovery := by
  unfold TerracottaController.diagnoseEnter
  split
  · rfl
  · simp only
    split
    · split
      · rfl
      · rename_i d hd
        rw [(transitionTo_ok hd).1]
        rfl
    · rfl

theorem Traced.enter (hc : c.Traced earned) (host : Host) (scene : Scene) : ∀ {op : Op},
    (∀ intent, op = .recover intent → earned intent) → TracedPiece earned c (c.enter host scene op)
  | .create request, _ => hc.createEnter host scene request
  | .join request code, _ => hc.joinEnter host scene request code
  | .leave, _ => hc.leaveEnter host scene
  | .refresh poll, _ => hc.piece (enter_within host scene c _) (.inl rfl) (fun await ha => by cases ha; trivial)
  | .diagnose command, _ => hc.piece (enter_within host scene c _) (.inl (diagnoseEnter_recovery command c))
      (fun await ha => by rw [Sys.diagnoseEnter_wait ha]; trivial)
  | .recover intent, h => hc.piece (enter_within host scene c _) (.inl rfl)
      (fun await ha => by cases ha; exact h intent rfl)

theorem refreshAnswered_recovery (helper : TerracottaRoomSnapshot) (c : TerracottaController) :
    (c.refreshAnswered helper).1.recovery = c.recovery := by
  unfold refreshAnswered
  split
  · rfl
  split
  · simp only
    split
    · exact stopStatusPolling_recovery c
    · rename_i d hd
      rw [(transitionTo_ok hd).1]
      exact stopStatusPolling_recovery c
  · rfl

theorem diagnoseAnswered_recovery (previous : TerracottaRoomState) (network : TerracottaNetworkStatus)
    (c : TerracottaController) : (c.diagnoseAnswered previous network).1.recovery = c.recovery := by
  unfold diagnoseAnswered
  split
  · rfl
  · rename_i d hd
    split at hd
    · rw [(transitionTo_ok hd).1]
      rfl
    · cases hd
      rfl

theorem startStatusPolling_recovery (c : TerracottaController) : c.startStatusPolling.recovery = c.recovery :=
  stopStatusPolling_recovery c

theorem recoverConnected_recovery (connected : TerracottaRoomSnapshot) (c : TerracottaController) :
    (c.recoverConnected connected).1.recovery = c.recovery := by
  unfold recoverConnected
  split
  · rfl
  · rename_i d hd
    have hd' : d.recovery = c.recovery := by
      split at hd
      · rw [(transitionTo_ok hd).1]
      · cases hd
        rfl
    exact (startStatusPolling_recovery _).trans hd'

/-- **The intent a room leaves behind** is that of the request it was opened with. -/
theorem createConnected_recovery {request : TerracottaCreateRoomRequest} {sessionId lanAddress : String}
    {connected : TerracottaRoomSnapshot} {intent : RecoveryIntent}
    (h : (c.createConnected request sessionId lanAddress connected).1.recovery = some intent) :
    c.recovery = some intent ∨ (Call.create request sessionId lanAddress).request.intent connected = some intent := by
  unfold createConnected at h
  split at h
  · exact .inl h
  · exact .inr ((startStatusPolling_recovery _).symm.trans h)

theorem joinConnected_recovery {host : Host} {request : TerracottaJoinRoomRequest} {code : String}
    {connected : TerracottaRoomSnapshot} {intent : RecoveryIntent}
    (h : (c.joinConnected host request code connected).1.recovery = some intent) :
    c.recovery = some intent ∨ (Call.join request code).request.intent connected = some intent := by
  unfold joinConnected at h
  split at h
  · exact .inl h
  · simp only at h
    split at h
    · exact .inr ((startStatusPolling_recovery _).symm.trans h)
    · exact .inr ((startStatusPolling_recovery _).symm.trans h)

theorem Traced.answered (hc : c.Traced earned) (host : Host) {call : Call} {response : Envelope}
    (h : ∀ connected intent, responseSnapshot response = some connected →
      call.request.intent connected = some intent → earned intent) :
    TracedPiece earned c (c.answered host call response) where
  recovery intent hi := by
    cases call with
    | create request sessionId lanAddress =>
      simp only [TerracottaController.answered] at hi
      cases hread : responseSnapshot response with
      | none => rw [hread] at hi; exact hc.recovery intent hi
      | some connected =>
        rw [hread] at hi
        rcases createConnected_recovery hi with hi | hi
        · exact hc.recovery intent hi
        · exact h connected intent hread hi
    | join request code =>
      simp only [TerracottaController.answered] at hi
      cases hread : responseSnapshot response with
      | none => rw [hread] at hi; exact hc.recovery intent hi
      | some connected =>
        rw [hread] at hi
        rcases joinConnected_recovery hi with hi | hi
        · exact hc.recovery intent hi
        · exact h connected intent hread hi
    | leave => exact hc.recovery intent hi
    | refresh poll =>
      simp only [TerracottaController.answered] at hi
      split at hi
      · exact hc.recovery intent hi
      · exact hc.recovery intent ((refreshAnswered_recovery _ c).symm.trans hi)
    | diagnose previous command =>
      simp only [TerracottaController.answered] at hi
      split at hi
      · exact hc.recovery intent hi
      · exact hc.recovery intent ((diagnoseAnswered_recovery _ _ c).symm.trans hi)
    | recover request =>
      simp only [TerracottaController.answered] at hi
      split at hi
      · exact hc.recovery intent hi
      · exact hc.recovery intent ((recoverConnected_recovery _ c).symm.trans hi)
  within := answered_within host c response call
  await await ha := by
    rcases answered_wait ha with hopened | ⟨-, rfl⟩
    · exact Await.traced_of_opened hopened
    · trivial

/-- **What a recovery sends is what its intent says.** -/
theorem recoverStopped_wait {intent : RecoveryIntent} {await : Await} (h : (c.recoverStopped intent).2 = .wait await) :
    ∃ request, await = .calling (.recover request) .starting ∧ intent.request = some request := by
  unfold recoverStopped at h
  split at h
  · rename_i hhost
    split at h
    · rename_i sessionId address hsession haddress
      split at h
      · cases h
      · cases h
        exact ⟨_, rfl, by rw [RecoveryIntent.request, if_pos hhost, hsession, haddress]; rfl⟩
    · cases h
  · rename_i hmember
    split at h
    · rename_i code hcode
      split at h
      · cases h
      · cases h
        exact ⟨_, rfl, by rw [RecoveryIntent.request, if_neg hmember, hcode]; rfl⟩
    · cases h

theorem recoverStopped_fields (intent : RecoveryIntent) (c : TerracottaController) : (c.recoverStopped intent).1 = c := by
  unfold recoverStopped
  split
  · split
    · split <;> rfl
    · rfl
  · split
    · split <;> rfl
    · rfl

theorem Traced.stopped (hc : c.Traced earned) : ∀ {stop : Stopping}, (Await.stopping stop).Traced earned →
    TracedPiece earned c (c.stopped stop)
  | .leaveWaiting, _ => hc.piece (stopped_within c _) (.inl rfl) (fun await ha => by cases ha)
  | .leaveRoom, _ => by
    refine hc.piece (stopped_within c _) (.inl ?_) (fun await ha => ?_)
    · show c.leaveStopped.1.recovery = _
      unfold leaveStopped
      split
      · rfl
      · rename_i d hd
        rw [(transitionTo_ok hd).1]
        rfl
    · change c.leaveStopped.2 = _ at ha
      unfold leaveStopped at ha
      split at ha <;> cases ha
  | .recover intent, h => by
    refine hc.piece (stopped_within c _) (.inl ?_) (fun await ha => ?_)
    · show (c.recoverStopped intent).1.recovery = _
      rw [recoverStopped_fields]
    · obtain ⟨request, rfl, hrequest⟩ := recoverStopped_wait ha
      exact ⟨intent, h, hrequest⟩

end pieces

end TerracottaController

end Terracotta
