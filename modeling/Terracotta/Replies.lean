import Terracotta.RequestIds
/-!
# One reply for every request (`ipc/session.rs`)

Whatever comes of a request, `handle_request` writes one reply with its id.  The replies of the source's own texts are
short, but the ones that refuse a protocol version or an id repeat an id nothing has checked: the size of a reply, byte
for byte, decides when it fits the frame the request came in.
-/
namespace Terracotta

open Json (escapedLen)

/-! ## The size of a reply -/

theorem length_toVec (w : Wiring) (e : Envelope) :
    (w.toVec e).length = 42 + Text.utf8Len (toString e.protocol).toList + escapedLen e.id.toList +
      escapedLen e.messageType.toList + Text.utf8Len (Json.write w.printReal (Json.sortKeys e.payload)) := by
  have h1 : Text.utf8Len "\x7b\"protocol\":".toList = 12 := by decide
  have h2 : Text.utf8Len ",\"id\":".toList = 6 := by decide
  have h3 : Text.utf8Len ",\"type\":".toList = 8 := by decide
  have h4 : Text.utf8Len ",\"payload\":".toList = 11 := by decide
  have h5 : Text.utf8Len ['\x7d'] = 1 := by decide
  unfold Wiring.toVec Envelope.toVec Envelope.text
  rw [Text.length_utf8]
  iterate 8 rw [Text.utf8Len_append]
  rw [Json.utf8Len_writeStr, Json.utf8Len_writeStr, h1, h2, h3, h4, h5]
  omega

theorem sortKeys_error (code message : String) (retryable : Bool) :
    Json.sortKeys (RoomError.toValue ⟨code, message, retryable⟩) = RoomError.toValue ⟨code, message, retryable⟩ := by
  have hmessage : "message" < "retryable" := by decide
  have hcode : "code" < "message" := by decide
  show Json.Value.obj (Json.insertMember "code" (.str code)
    (Json.insertMember "message" (.str message) [("retryable", .bool retryable)])) = _
  rw [Json.insertMember, if_pos hmessage, Json.insertMember, if_pos hcode]
  rfl

theorem length_errorReply (w : Wiring) (id code message : String) :
    (w.toVec (errorReply id code message false)).length =
      90 + escapedLen id.toList + escapedLen code.toList + escapedLen message.toList := by
  have htype : escapedLen "error".toList = 5 := by decide
  have hcode : Text.utf8Len (Json.writeStr "code") = 6 := by decide
  have hmessage : Text.utf8Len (Json.writeStr "message") = 9 := by decide
  have hretryable : Text.utf8Len (Json.writeStr "retryable") = 11 := by decide
  have hfalse : Text.utf8Len "false".toList = 5 := by decide
  have h1 : Char.utf8Size '\x7b' = 1 := by decide
  have h2 : Char.utf8Size '\x7d' = 1 := by decide
  have h3 : Char.utf8Size ':' = 1 := by decide
  have h4 : Char.utf8Size ',' = 1 := by decide
  have hprotocol : Text.utf8Len (toString protocolVersion).toList = 1 := by decide
  rw [errorReply, length_toVec]
  show 42 + Text.utf8Len (toString protocolVersion).toList + escapedLen id.toList + escapedLen "error".toList +
    Text.utf8Len (Json.write w.printReal (Json.sortKeys (RoomError.toValue ⟨code, message, false⟩))) = _
  rw [sortKeys_error, htype, hprotocol]
  simp only [RoomError.toValue, Json.write, Json.writeMembers, List.cons_append, Text.utf8Len_cons, Text.utf8Len_append,
    Text.utf8Len_nil, hcode, hmessage, hretryable, Json.utf8Len_writeStr, h1, h2, h3, h4, Bool.false_eq_true, if_false,
    hfalse]
  omega

theorem toVec_ne_nil (w : Wiring) (e : Envelope) : w.toVec e ≠ [] := by
  intro h
  have hlen : (w.toVec e).length = 0 := by rw [h]; rfl
  have hbrace : Text.utf8Len ['\x7d'] = 1 := by decide
  unfold Wiring.toVec Envelope.toVec Envelope.text at hlen
  rw [Text.length_utf8, Text.utf8Len_append, hbrace] at hlen
  omega

/-! ## One reply -/

namespace Session

/-- A write that fits a frame, on a transport that takes it. -/
theorem write_fits {w : Wiring} (hw : w.capacity = none) (s : Session) {e : Envelope} (outcome : Option SessionOutcome)
    (hfits : (w.toVec e).length ≤ maxFrameSize) :
    s.write w e outcome = { s with frames := s.frames ++ [e], ended := outcome.map .ok } := by
  have hframe : writeFrame w.toVec e = .ok (Frames.encode (w.toVec e)) := by
    unfold writeFrame
    simp only
    rw [if_neg]
    rintro (h | h)
    · exact toVec_ne_nil w e h
    · omega
  unfold write
  rw [hframe, hw]
  simp only
  rw [if_pos (Nat.le_refl _)]

/-- A write that does not. -/
theorem write_too_long (w : Wiring) (s : Session) {e : Envelope} (outcome : Option SessionOutcome)
    (hlong : maxFrameSize < (w.toVec e).length) :
    s.write w e outcome = { s with ended := some (.error (.invalidLength 0)) } := by
  have hframe : writeFrame w.toVec e = .error (.invalidLength 0) := by
    unfold writeFrame
    simp only
    rw [if_pos (Or.inr hlong)]
  unfold write
  rw [hframe]

/-- **One frame is written, with the request's id, and the handler returns `Ok`.** -/
def Answered (s t : Session) (request : Envelope) : Prop :=
  (∃ response : Envelope, response.id = request.id ∧ t.frames = s.frames ++ [response]) ∧ t.torn = s.torn ∧
    ∀ e, t.ended ≠ some (.error e)

theorem write_answered_iff {w : Wiring} (hw : w.capacity = none) {s s' : Session} {request response : Envelope}
    (outcome : Option SessionOutcome) (hid : response.id = request.id) (hframes : s'.frames = s.frames)
    (htorn : s'.torn = s.torn) :
    Answered s (s'.write w response outcome) request ↔ (w.toVec response).length ≤ maxFrameSize := by
  by_cases hfits : (w.toVec response).length ≤ maxFrameSize
  · refine ⟨fun _ => hfits, fun _ => ?_⟩
    rw [write_fits hw s' outcome hfits]
    refine ⟨⟨response, hid, by rw [hframes]⟩, htorn, fun e h => ?_⟩
    cases outcome <;> cases h
  · refine ⟨fun h => ?_, fun h => absurd h hfits⟩
    rw [write_too_long w s' outcome (Nat.lt_of_not_le hfits)] at h
    exact absurd rfl (h.2.2 _)

/-- The reply to the call of the room service a request makes, if it makes one. -/
def callReply (s : Session) (request : Envelope) (answers : SessionAnswers) : Option Envelope :=
  if s.Refused request then none
  else match request.dispatch with
    | .call call => some (s.room.serve request.id answers call).2
    | _ => none

/-- **The requests that can be answered**: the reply to a refused protocol or id repeats the id, whatever it is, and has to
fit a frame with it. -/
def Answerable (request : Envelope) : Prop :=
  if request.protocol ≠ protocolVersion then escapedLen request.id.toList ≤ 1048423
  else validRequestId request.id = true ∨ escapedLen request.id.toList ≤ 1048438

theorem reply_id {α : Type} (id messageType : String) (payload : α → Json.Value) (result : Except RoomError α) :
    (reply id messageType payload result).id = id := by
  cases result <;> rfl

theorem serve_id (room : RoomService) (id : String) (answers : SessionAnswers) (call : RoomRequest) :
    (room.serve id answers call).2.id = id := by
  cases call with
  | initializeIdentity key => rfl
  | status => rfl
  | leave | create _ | join _ | setLanAddress _ | diagnose => exact reply_id _ _ _ _

end Session

theorem length_le_utf8Len : ∀ s : List Char, s.length ≤ Text.utf8Len s
  | [] => Nat.le_refl _
  | c :: s => by
    have hc := c.utf8Size_pos
    have ih := length_le_utf8Len s
    rw [Text.utf8Len_cons, List.length_cons]
    omega

/-- A valid id takes at most 256 bytes of a reply. -/
theorem escapedLen_valid {id : String} (h : validRequestId id = true) : escapedLen id.toList ≤ 256 := by
  simp only [validRequestId, Bool.and_eq_true, decide_eq_true_eq, List.all_eq_true] at h
  obtain ⟨⟨-, hlen⟩, hall⟩ := h
  have hescaped := Json.escapedLen_printable hall
  have hle := length_le_utf8Len id.toList
  omega

/-- The texts of the dispatch are short. -/
theorem dispatch_refuse_short {request : Envelope} {code message : String} (h : request.dispatch = .refuse code message) :
    escapedLen code.toList + escapedLen message.toList ≤ 200 := by
  have hpayload : ∀ {α : Type} {messageType : String} {make : α → RoomRequest} {payload : Option α},
      Dispatch.ofPayload messageType make payload = .refuse code message →
        code = "room.invalid-request" ∧ message = "The " ++ messageType ++ " payload is invalid." := by
    intro α messageType make payload h
    cases payload with
    | none => cases h; exact ⟨rfl, rfl⟩
    | some a => cases h
  unfold Envelope.dispatch at h
  split at h
  · split at h
    · cases h; decide
    · split at h
      · cases h; decide
      · cases h
  split at h
  · cases h
  split at h
  · cases h
  split at h
  · obtain ⟨rfl, rfl⟩ := hpayload h
    decide
  split at h
  · obtain ⟨rfl, rfl⟩ := hpayload h
    decide
  split at h
  · obtain ⟨rfl, rfl⟩ := hpayload h
    decide
  split at h
  · cases h
  split at h
  · cases h
  · cases h; decide

namespace Session

variable {w : Wiring} {s s' : Session} {request : Envelope}

theorem error_answered_iff (hw : w.capacity = none) (code message : String) (outcome : Option SessionOutcome)
    (hframes : s'.frames = s.frames) (htorn : s'.torn = s.torn) :
    Answered s (s'.write w (errorReply request.id code message false) outcome) request ↔
      90 + escapedLen request.id.toList + escapedLen code.toList + escapedLen message.toList ≤ maxFrameSize := by
  have hid : (errorReply request.id code message false).id = request.id := rfl
  rw [write_answered_iff hw outcome hid hframes htorn, length_errorReply]

/-- An error with a text of the source answers a request with a valid id. -/
theorem error_answered (hw : w.capacity = none) {code message : String} (outcome : Option SessionOutcome)
    (hframes : s'.frames = s.frames) (htorn : s'.torn = s.torn) (hid : validRequestId request.id = true)
    (hshort : escapedLen code.toList + escapedLen message.toList ≤ 200) :
    Answered s (s'.write w (errorReply request.id code message false) outcome) request := by
  rw [error_answered_iff hw code message outcome hframes htorn]
  have hescaped := escapedLen_valid hid
  unfold maxFrameSize
  omega

theorem length_shutdown (w : Wiring) (id : String) :
    (w.toVec (.response id "shutdown.accepted" (.obj []))).length = 62 + escapedLen id.toList := by
  have hprotocol : Text.utf8Len (toString protocolVersion).toList = 1 := by decide
  have htype : escapedLen "shutdown.accepted".toList = 17 := by decide
  have hpayload : Text.utf8Len (Json.write w.printReal (Json.sortKeys (.obj []))) = 2 := rfl
  rw [length_toVec]
  show 42 + Text.utf8Len (toString protocolVersion).toList + escapedLen id.toList +
    escapedLen "shutdown.accepted".toList + Text.utf8Len (Json.write w.printReal (Json.sortKeys (.obj []))) = _
  rw [hprotocol, htype, hpayload]
  omega

/-- The dispatch answers every request, where the reply to a call fits. -/
theorem dispatch_answered (hw : w.capacity = none) {answers : SessionAnswers} (hid : validRequestId request.id = true)
    (hframes : s'.frames = s.frames) (htorn : s'.torn = s.torn)
    (hfits : ∀ call, request.dispatch = .call call →
      (w.toVec (s'.room.serve request.id answers call).2).length ≤ maxFrameSize) :
    Answered s (s'.dispatch w request answers) request := by
  unfold dispatch
  simp only
  cases hd : request.dispatch with
  | call call =>
    have hsame : (s'.room.serve request.id answers call).2.id = request.id := serve_id _ _ _ _
    simp only [serve]
    refine Iff.mpr (write_answered_iff hw none hsame ?_ ?_) (hfits call hd)
    · exact hframes
    · exact htorn
  | refuse code message =>
    refine error_answered hw none ?_ ?_ hid (dispatch_refuse_short hd)
    · exact hframes
    · exact htorn
  | shutdown =>
    have hescaped := escapedLen_valid hid
    have hsame : (Envelope.response request.id "shutdown.accepted" (.obj [])).id = request.id := rfl
    refine Iff.mpr (write_answered_iff hw _ hsame ?_ ?_) ?_
    · exact hframes
    · exact htorn
    · rw [length_shutdown]
      unfold maxFrameSize
      omega

/-- **A request is answered exactly when its id leaves room for the reply**, on a transport that takes what is written,
where the reply to a call of the room service fits a frame. -/
theorem request_is_answered_iff (w : Wiring) (hw : w.capacity = none) (s : Session) (request : Envelope)
    (answers : SessionAnswers)
    (hfits : ∀ response ∈ s.callReply request answers, (w.toVec response).length ≤ maxFrameSize) :
    Answered s (s.handleRequest w request answers) request ↔ Answerable request := by
  unfold handleRequest Answerable
  by_cases hprotocol : request.protocol ≠ protocolVersion
  · have hcode : escapedLen "ipc.protocol-mismatch".toList = 21 := by decide
    have hmessage : escapedLen "The IPC protocol version is not supported.".toList = 42 := by decide
    rw [if_pos hprotocol, if_pos hprotocol, error_answered_iff hw _ _ none rfl rfl, hcode, hmessage]
    unfold maxFrameSize
    omega
  rw [if_neg hprotocol, if_neg hprotocol]
  by_cases hid : validRequestId request.id = true
  swap
  · have hcode : escapedLen "ipc.invalid-request-id".toList = 22 := by decide
    have hmessage : escapedLen "The request ID is invalid.".toList = 26 := by decide
    rw [if_pos (by simpa using hid), error_answered_iff hw _ _ none rfl rfl, hcode, hmessage]
    rw [or_iff_right hid]
    unfold maxFrameSize
    omega
  rw [if_neg (by simpa using hid)]
  refine ⟨fun _ => Or.inl hid, fun _ => ?_⟩
  by_cases hlimit : maxRequestIds ≤ s.requestIds.length
  · rw [if_pos hlimit]
    exact error_answered hw _ rfl rfl hid (by decide)
  rw [if_neg hlimit]
  by_cases hold : request.id ∈ s.requestIds
  · rw [if_pos hold]
    exact error_answered hw _ rfl rfl hid (by decide)
  rw [if_neg hold]
  simp only
  by_cases hidentity : (request.messageType = "room.create" ∨ request.messageType = "room.join") ∧ s.identity = none
  · rw [if_pos hidentity]
    exact error_answered hw _ rfl rfl hid (by decide)
  rw [if_neg hidentity]
  refine dispatch_answered hw hid rfl rfl (fun call hcall => hfits _ ?_)
  have hpassed : ¬ s.Refused request := by
    rintro (h | h | h | h | h)
    · exact hprotocol h
    · rw [hid] at h; cases h
    · exact hlimit h
    · exact hold h
    · exact hidentity h
  simp only [callReply, if_neg hpassed, hcall]
  rfl

/-- A status request is answered. -/
theorem status_is_answered : Answered (opened .new "hello")
    ((opened .new "hello").handleRequest openWiring ⟨1, "r1", "room.status", .obj []⟩ silentAnswers)
    ⟨1, "r1", "room.status", .obj []⟩ := by
  have hfits : ∀ response ∈ (opened .new "hello").callReply ⟨1, "r1", "room.status", .obj []⟩ silentAnswers,
      (openWiring.toVec response).length ≤ maxFrameSize := by decide +kernel
  have hanswerable : Answerable ⟨1, "r1", "room.status", .obj []⟩ := Or.inl (by decide)
  exact (request_is_answered_iff openWiring rfl (opened .new "hello") _ silentAnswers hfits).2 hanswerable

theorem escapedLen_replicate (n : Nat) : escapedLen (List.replicate n 'a') = n := by
  induction n with
  | zero => rfl
  | succ n ih =>
    have ha : Text.utf8Len (Json.escapeChar 'a') = 1 := by decide
    rw [List.replicate_succ, Json.escapedLen_cons, ih, ha]
    omega

/-- A request of another protocol version, with an id of `n` letters. -/
def longRequest (n : Nat) : Envelope := ⟨2, String.ofList (List.replicate n 'a'), "room.status", .obj []⟩

/-- `serde_json::from_slice` on the text of one envelope. -/
def readsBack (text : List UInt8) (e : Envelope) (bytes : List UInt8) : Option Envelope :=
  if bytes = text then some e else none

theorem readsBack_self (text : List UInt8) (e : Envelope) : readsBack text e text = some e := if_pos rfl

/-- A transport that takes everything, and a reader that reads the long request. -/
def longWiring (n : Nat) : Wiring :=
  ⟨readsBack ((longRequest n).toVec printZero) (longRequest n), printZero, none⟩

theorem escapedLen_longRequest (n : Nat) : escapedLen (longRequest n).id.toList = n := by
  show escapedLen (String.ofList (List.replicate n 'a')).toList = n
  rw [String.toList_ofList, escapedLen_replicate]

theorem length_longRequest (n : Nat) : ((longWiring n).toVec (longRequest n)).length = 56 + n := by
  have hprotocol : Text.utf8Len (toString 2).toList = 1 := by decide
  have htype : escapedLen "room.status".toList = 11 := by decide
  have hpayload : Text.utf8Len (Json.write (longWiring n).printReal (Json.sortKeys (.obj []))) = 2 := rfl
  rw [length_toVec, escapedLen_longRequest]
  show 42 + Text.utf8Len (toString 2).toList + n + escapedLen "room.status".toList +
    Text.utf8Len (Json.write (longWiring n).printReal (Json.sortKeys (.obj []))) = _
  rw [hprotocol, htype, hpayload]
  omega

theorem longWiring_readFrame {n : Nat} (hn : n ≤ 1048520) :
    (readFrame (longWiring n).fromSlice [Frames.encode ((longWiring n).toVec (longRequest n))]).1 =
      .ok (longRequest n) := by
  have hfrom : (longWiring n).fromSlice ((longWiring n).toVec (longRequest n)) = some (longRequest n) := by
    unfold longWiring Wiring.toVec
    dsimp only
    exact readsBack_self _ _
  have hsize : 0 < ((longWiring n).toVec (longRequest n)).length ∧
      ((longWiring n).toVec (longRequest n)).length ≤ maxFrameSize := by
    rw [length_longRequest]
    unfold maxFrameSize
    omega
  have hbytes : Reader.start.taken ++ [Frames.encode ((longWiring n).toVec (longRequest n))].flatten =
      Frames.encode ((longWiring n).toVec (longRequest n)) ++ [] := by simp [Reader.start, Reader.taken]
  obtain ⟨rest, hdrive, -⟩ := Reader.drive_whole hsize (Reader.start_within _) hbytes
  unfold readFrame
  rw [hdrive]
  simp only
  rw [hfrom]

/-- The refusal of its protocol version does not fit a frame with its id. -/
theorem longRequest_unanswered {n : Nat} (hn : 1048423 < n) (s : Session) (answers : SessionAnswers) :
    ¬ Answered s (s.handleRequest (longWiring n) (longRequest n) answers) (longRequest n) ∧
      (s.handleRequest (longWiring n) (longRequest n) answers).frames = s.frames := by
  have hcode : escapedLen "ipc.protocol-mismatch".toList = 21 := by decide
  have hmessage : escapedLen "The IPC protocol version is not supported.".toList = 42 := by decide
  have hprotocol : (longRequest n).protocol ≠ protocolVersion := show (2 : Nat) ≠ 1 by decide
  have hlong : maxFrameSize < ((longWiring n).toVec (errorReply (longRequest n).id "ipc.protocol-mismatch"
      "The IPC protocol version is not supported." false)).length := by
    rw [length_errorReply, escapedLen_longRequest, hcode, hmessage]
    unfold maxFrameSize
    omega
  unfold handleRequest
  rw [if_pos hprotocol]
  refine ⟨?_, by rw [write_too_long _ s none hlong]⟩
  rw [error_answered_iff rfl _ _ none rfl rfl, escapedLen_longRequest, hcode, hmessage]
  unfold maxFrameSize
  omega

/-- **A long id goes unanswered**: `read_frame` accepts the request, nothing is written for it, and the session ends with
an error. -/
theorem long_id_is_not_answered :
    (readFrame (longWiring 1048500).fromSlice [Frames.encode ((longWiring 1048500).toVec (longRequest 1048500))]).1 =
      .ok (longRequest 1048500) ∧
    ¬ Answered (opened .new "hello")
      ((opened .new "hello").handleRequest (longWiring 1048500) (longRequest 1048500) silentAnswers)
      (longRequest 1048500) ∧
    ((opened .new "hello").handleRequest (longWiring 1048500) (longRequest 1048500) silentAnswers).frames =
      (opened .new "hello").frames :=
  ⟨longWiring_readFrame (by decide), longRequest_unanswered (by decide) _ _⟩

end Session

end Terracotta
