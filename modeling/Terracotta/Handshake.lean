import Terracotta.Replies
/-!
# The hello of a session (`ipc/session.rs`)

The Helper gives the plugin five seconds for its first frame, and refuses it in three places before the loop of the
session starts.  The secret of the session is compared once, with the token of a hello; every refusal is written
before anything else has been done, so that a peer without the token learns nothing of the secret from it.
-/
namespace Terracotta

open Json (Value structFields readString escapedLen)

structure HelloRequest where
  authToken : String
  client : String
  clientVersion : String
deriving DecidableEq

def HelloRequest.fromValue (v : Value) : Option HelloRequest :=
  match structFields ["authToken", "client", "clientVersion"] v with
  | some [authToken, client, clientVersion] => do
    return { authToken := ← readString authToken, client := ← readString client,
             clientVersion := ← readString clientVersion }
  | _ => none

/-- What becomes of a stream behind the bytes that have arrived. -/
inductive Waiting where
  | silent -- nothing more in the five seconds
  | closed
  | broken -- reading fails

/-- The pieces in which bytes arrive in the first five seconds. -/
structure Arrivals where
  pieces : List (List UInt8)
  waiting : Waiting

/-- The first `read_frame` of a session, under its timeout. -/
def firstFrame (w : Wiring) (arrivals : Arrivals) : Except FrameError Envelope :=
  match (Reader.start.drive arrivals.pieces).1 with
  | .body body => match w.fromSlice body with
    | none => .error .invalidJson
    | some first => .ok first
  | .failed error => .error error
  | .ended reader => match arrivals.waiting with
    | .silent | .broken => .error .io
    | .closed => .error reader.endOfStream

namespace Session

/-- A session that has read nothing yet. -/
def fresh (room : RoomService) : Session :=
  { requestIds := [], identity := none, room, eventSequence := 0, frames := [], torn := [], dispatched := [], calls := [],
    ended := none }

/-- `session::run` up to its loop; `ct_eq` compares the bytes, and is false on two lengths. -/
def handshake (w : Wiring) (secret : List UInt8) (room : RoomService) (arrivals : Arrivals) : Session :=
  match firstFrame w arrivals with
  | .error error => { fresh room with ended := some (.error error) }
  | .ok first =>
    if !validRequestId first.id ∨ first.protocol ≠ protocolVersion ∨ first.messageType ≠ "hello" then
      (fresh room).write w (errorReply first.id "ipc.invalid-handshake"
        "The first IPC message must be a valid hello request." false) (some .peerDisconnected)
    else match HelloRequest.fromValue first.payload with
      | none => (fresh room).write w (errorReply first.id "ipc.invalid-handshake" "The hello payload is invalid." false)
          (some .peerDisconnected)
      | some hello =>
        if Text.utf8 hello.authToken.toList ≠ secret ∨ hello.client ≠ "pcln" ∨
            Text.trim hello.clientVersion.toList = [] then
          (fresh room).write w (errorReply first.id "ipc.authentication-failed" "IPC authentication failed." false)
            (some .peerDisconnected)
        else { (fresh room).write w (helloAccepted first.id) none with requestIds := [first.id] }

/-- The first frame is a hello whose token is the secret. -/
def Presents (w : Wiring) (arrivals : Arrivals) (secret : List UInt8) : Prop :=
  ∃ first hello, firstFrame w arrivals = .ok first ∧ first.messageType = "hello" ∧
    HelloRequest.fromValue first.payload = some hello ∧ Text.utf8 hello.authToken.toList = secret

/-- **What the loop asks of a first frame.** -/
structure Welcome (w : Wiring) (arrivals : Arrivals) (secret : List UInt8) (first : Envelope) : Prop where
  inTime : ∃ body rest, Reader.start.drive arrivals.pieces = (.body body, rest) ∧ w.fromSlice body = some first
  protocol : first.protocol = protocolVersion
  hello : first.messageType = "hello"
  id : validRequestId first.id = true
  payload : ∃ hello, HelloRequest.fromValue first.payload = some hello ∧ Text.utf8 hello.authToken.toList = secret ∧
    hello.client = "pcln" ∧ Text.trim hello.clientVersion.toList ≠ []

/-! ## One verdict on the first frame -/

/-- What the handshake makes of a first frame, before it writes. -/
inductive Verdict where
  | unread (error : FrameError)
  | refused (id code message : String)
  | accepted (id : String)

def verdict (w : Wiring) (secret : List UInt8) (arrivals : Arrivals) : Verdict :=
  match firstFrame w arrivals with
  | .error error => .unread error
  | .ok first =>
    if !validRequestId first.id ∨ first.protocol ≠ protocolVersion ∨ first.messageType ≠ "hello" then
      .refused first.id "ipc.invalid-handshake" "The first IPC message must be a valid hello request."
    else match HelloRequest.fromValue first.payload with
      | none => .refused first.id "ipc.invalid-handshake" "The hello payload is invalid."
      | some hello =>
        if Text.utf8 hello.authToken.toList ≠ secret ∨ hello.client ≠ "pcln" ∨
            Text.trim hello.clientVersion.toList = [] then
          .refused first.id "ipc.authentication-failed" "IPC authentication failed."
        else .accepted first.id

def Verdict.carryOut (w : Wiring) (room : RoomService) : Verdict → Session
  | .unread error => { fresh room with ended := some (.error error) }
  | .refused id code message => (fresh room).write w (errorReply id code message false) (some .peerDisconnected)
  | .accepted id => { (fresh room).write w (helloAccepted id) none with requestIds := [id] }

/-- **The handshake is a verdict and what is written for it.** -/
theorem handshake_eq (w : Wiring) (secret : List UInt8) (room : RoomService) (arrivals : Arrivals) :
    handshake w secret room arrivals = (verdict w secret arrivals).carryOut w room := by
  unfold handshake verdict
  cases firstFrame w arrivals with
  | error error => rfl
  | ok first =>
    simp only
    split
    · rfl
    · cases HelloRequest.fromValue first.payload with
      | none => rfl
      | some hello =>
        simp only
        split <;> rfl

theorem firstFrame_ok {w : Wiring} {arrivals : Arrivals} {first : Envelope} (h : firstFrame w arrivals = .ok first) :
    ∃ body rest, Reader.start.drive arrivals.pieces = (.body body, rest) ∧ w.fromSlice body = some first := by
  unfold firstFrame at h
  cases hdrive : Reader.start.drive arrivals.pieces with
  | mk reading rest =>
    rw [hdrive] at h
    cases reading with
    | failed error => cases h
    | ended reader => cases hwaiting : arrivals.waiting <;> rw [hwaiting] at h <;> cases h
    | body body =>
      cases hfrom : w.fromSlice body with
      | none => simp only [hfrom] at h; cases h
      | some envelope =>
        simp only [hfrom] at h
        cases h
        exact ⟨body, rest, rfl, hfrom⟩

theorem firstFrame_of_drive {w : Wiring} {arrivals : Arrivals} {first : Envelope}
    (h : ∃ body rest, Reader.start.drive arrivals.pieces = (.body body, rest) ∧ w.fromSlice body = some first) :
    firstFrame w arrivals = .ok first := by
  obtain ⟨body, rest, hdrive, hfrom⟩ := h
  unfold firstFrame
  simp only [hdrive, hfrom]

/-- **An accepted first frame is a welcome one.** -/
theorem verdict_accepted_iff {w : Wiring} {secret : List UInt8} {arrivals : Arrivals} {id : String} :
    verdict w secret arrivals = .accepted id ↔ ∃ first, Welcome w arrivals secret first ∧ first.id = id := by
  constructor
  · intro h
    unfold verdict at h
    cases hfirst : firstFrame w arrivals with
    | error error => rw [hfirst] at h; cases h
    | ok first =>
      rw [hfirst] at h
      simp only at h
      split at h
      · cases h
      · rename_i hvalid
        simp only [Bool.not_eq_true', not_or, Bool.not_eq_false, not_not] at hvalid
        cases hhello : HelloRequest.fromValue first.payload with
        | none => rw [hhello] at h; cases h
        | some hello =>
          rw [hhello] at h
          simp only at h
          split at h
          · cases h
          · rename_i hknown
            simp only [not_or, not_not] at hknown
            refine ⟨first, ⟨firstFrame_ok hfirst, hvalid.2.1, hvalid.2.2, hvalid.1, hello, hhello, hknown⟩, ?_⟩
            exact Verdict.accepted.inj h
  · rintro ⟨first, hwelcome, rfl⟩
    obtain ⟨hello, hhello, htoken, hclient, hversion⟩ := hwelcome.payload
    have hvalid : ¬ ((!validRequestId first.id) = true ∨ first.protocol ≠ protocolVersion ∨
        first.messageType ≠ "hello") := by
      simp [hwelcome.id, hwelcome.protocol, hwelcome.hello]
    have hknown : ¬ (Text.utf8 hello.authToken.toList ≠ secret ∨ hello.client ≠ "pcln" ∨
        Text.trim hello.clientVersion.toList = []) := by
      simp [htoken, hclient, hversion]
    unfold verdict
    rw [firstFrame_of_drive hwelcome.inTime]
    simp only
    rw [if_neg hvalid, hhello]
    simp only
    rw [if_neg hknown]

/-- Without the token the verdict is not to accept, and the same for every secret. -/
theorem verdict_without_token {w : Wiring} {arrivals : Arrivals} {a b : List UInt8} (ha : ¬ Presents w arrivals a)
    (hb : ¬ Presents w arrivals b) : verdict w a arrivals = verdict w b arrivals := by
  unfold verdict
  cases hfirst : firstFrame w arrivals with
  | error error => rfl
  | ok first =>
    simp only
    split
    · rfl
    · rename_i hvalid
      cases hhello : HelloRequest.fromValue first.payload with
      | none => rfl
      | some hello =>
        have htype : first.messageType = "hello" := by
          by_contra hne
          exact hvalid (Or.inr (Or.inr hne))
        have hother : ∀ secret, ¬ Presents w arrivals secret → Text.utf8 hello.authToken.toList ≠ secret :=
          fun secret hsecret heq => hsecret ⟨first, hello, hfirst, htype, hhello, heq⟩
        simp only
        rw [if_pos (Or.inl (hother a ha)), if_pos (Or.inl (hother b hb))]

theorem Welcome.presents {w : Wiring} {arrivals : Arrivals} {secret : List UInt8} {first : Envelope}
    (h : Welcome w arrivals secret first) : Presents w arrivals secret := by
  obtain ⟨hello, hpayload, htoken, -⟩ := h.payload
  exact ⟨first, hello, firstFrame_of_drive h.inTime, h.hello, hpayload, htoken⟩

/-! ## What the peer sees -/

theorem write_ended (w : Wiring) (s : Session) (e : Envelope) (outcome : SessionOutcome) :
    (s.write w e (some outcome)).ended.isSome = true := by
  unfold write
  cases writeFrame w.toVec e with
  | error error => rfl
  | ok bytes => cases w.capacity <;> simp only <;> split <;> rfl

theorem refused_over (w : Wiring) (room : RoomService) (e : Envelope) :
    ((fresh room).write w e (some .peerDisconnected)).ended.isSome = true ∧
      ((fresh room).write w e (some .peerDisconnected)).calls = [] ∧
      ((fresh room).write w e (some .peerDisconnected)).room = room := by
  refine ⟨write_ended _ _ _ _, ?_⟩
  obtain ⟨frames, torn, ended, h⟩ := write_frame w (fresh room) e (some .peerDisconnected)
  rw [h]
  exact ⟨rfl, rfl⟩

/-- A refused handshake is over, and has not touched the room. -/
theorem carryOut_over (w : Wiring) (room : RoomService) : ∀ {v : Verdict}, (∀ id, v ≠ .accepted id) →
    (v.carryOut w room).ended.isSome = true ∧ (v.carryOut w room).calls = [] ∧ (v.carryOut w room).room = room
  | .unread _, _ => ⟨rfl, rfl, rfl⟩
  | .refused id code message, _ => refused_over w room (errorReply id code message false)
  | .accepted id, h => absurd rfl (h id)

/-- The reply holds no double. -/
theorem helloAccepted_text (printReal : F64 → List Char) :
    Json.write printReal (Json.sortKeys (.obj [("helperVersion", .str "0.1.0"),
      ("capabilities", .arr (capabilities.map .str))])) =
    Json.write printZero (Json.sortKeys (.obj [("helperVersion", .str "0.1.0"),
      ("capabilities", .arr (capabilities.map .str))])) := by
  have hsorted : Json.sortKeys (.obj [("helperVersion", .str "0.1.0"), ("capabilities", .arr (capabilities.map .str))]) =
      .obj [("capabilities", .arr (capabilities.map .str)), ("helperVersion", .str "0.1.0")] := by
    have hlt : ¬ "helperVersion" < "capabilities" := by decide
    have hne : ¬ "helperVersion" = "capabilities" := by decide
    show Json.Value.obj (Json.insertMember "helperVersion" (.str "0.1.0")
      [("capabilities", .arr (capabilities.map .str))]) = _
    rw [Json.insertMember, if_neg hlt, if_neg hne]
    rfl
  rw [hsorted]
  rfl

theorem helloAccepted_fits (w : Wiring) {id : String} (hid : validRequestId id = true) :
    (w.toVec (helloAccepted id)).length ≤ maxFrameSize := by
  have hescaped := escapedLen_valid hid
  have hprotocol : Text.utf8Len (toString protocolVersion).toList = 1 := by decide
  have htype : escapedLen "hello.accepted".toList = 14 := by decide
  have hpayload : Text.utf8Len (Json.write w.printReal (Json.sortKeys (.obj [("helperVersion", .str "0.1.0"),
      ("capabilities", .arr (capabilities.map .str))]))) ≤ 300 := by
    rw [helloAccepted_text]
    decide +kernel
  rw [length_toVec]
  show 42 + Text.utf8Len (toString protocolVersion).toList + escapedLen id.toList + escapedLen "hello.accepted".toList +
    Text.utf8Len (Json.write w.printReal (Json.sortKeys (.obj [("helperVersion", .str "0.1.0"),
      ("capabilities", .arr (capabilities.map .str))]))) ≤ _
  rw [hprotocol, htype]
  unfold maxFrameSize
  omega

/-- An accepted hello opens the session. -/
theorem carryOut_accepted {w : Wiring} (hw : w.capacity = none) (room : RoomService) {id : String}
    (hid : validRequestId id = true) : Verdict.carryOut w room (.accepted id) = opened room id := by
  unfold Verdict.carryOut
  simp only
  rw [write_fits hw _ none (helloAccepted_fits w hid)]
  rfl

/-- **The secret shows only to a peer that knows it.**  Without a hello that carries one of two secrets, `session::run`
returns with the same output and the same outcome under both, and has called nothing of the room service; and the loop
starts on a welcome first frame, and on no other. -/
theorem handshake_shows_the_secret_to_its_bearer (w : Wiring) (room : RoomService) (arrivals : Arrivals) :
    (∀ a b, ¬ (Presents w arrivals a ∨ Presents w arrivals b) →
      ∃ s outcome, handshake w a room arrivals = s ∧ handshake w b room arrivals = s ∧ s.ended = some outcome ∧
        s.calls = [] ∧ s.room = room ∧ ∀ label, step w s label = none) ∧
    (w.capacity = none → ∀ secret,
      (handshake w secret room arrivals).ended = none ↔ ∃ first, Welcome w arrivals secret first) := by
  refine ⟨fun a b hneither => ?_, fun hw secret => ?_⟩
  · rw [not_or] at hneither
    have hrefused : ∀ id, verdict w a arrivals ≠ .accepted id := by
      intro id hid
      obtain ⟨first, hwelcome, -⟩ := verdict_accepted_iff.1 hid
      exact hneither.1 hwelcome.presents
    obtain ⟨hended, hcalls, hroom⟩ := carryOut_over w room hrefused
    obtain ⟨outcome, houtcome⟩ := Option.isSome_iff_exists.1 hended
    refine ⟨(verdict w a arrivals).carryOut w room, outcome, handshake_eq w a room arrivals, ?_, houtcome, hcalls, hroom,
      fun label => ?_⟩
    · rw [handshake_eq, verdict_without_token hneither.1 hneither.2]
    · unfold step
      rw [houtcome]
  · rw [handshake_eq]
    constructor
    · intro hopen
      by_cases hrefused : ∀ id, verdict w secret arrivals ≠ .accepted id
      · have hended := (carryOut_over w room hrefused).1
        rw [hopen] at hended
        cases hended
      · simp only [ne_eq, not_forall, not_not] at hrefused
        obtain ⟨id, hid⟩ := hrefused
        obtain ⟨first, hwelcome, -⟩ := verdict_accepted_iff.1 hid
        exact ⟨first, hwelcome⟩
    · rintro ⟨first, hwelcome⟩
      rw [verdict_accepted_iff.2 ⟨first, hwelcome, rfl⟩, carryOut_accepted hw room hwelcome.id]
      rfl

/-! ## Three secrets -/

def token (c : Char) : String := String.ofList (List.replicate 64 c)

/-- A hello with a token of one letter. -/
def helloWith (c : Char) : Envelope :=
  ⟨1, "h1", "hello", .obj [("authToken", .str (token c)), ("client", .str "pcln"), ("clientVersion", .str "1.0.0")]⟩

def helloWiring (c : Char) : Wiring := ⟨readsBack ((helloWith c).toVec printZero) (helloWith c), printZero, none⟩

/-- Its frame, in two pieces. -/
def helloArrivals (c : Char) : Arrivals :=
  ⟨[Frames.header ((helloWith c).toVec printZero).length, (helloWith c).toVec printZero], .silent⟩

theorem helloArrivals_first : firstFrame (helloWiring 'c') (helloArrivals 'c') = .ok (helloWith 'c') := by
  have hsize : 0 < ((helloWith 'c').toVec printZero).length ∧
      ((helloWith 'c').toVec printZero).length ≤ maxFrameSize := by decide +kernel
  have hbytes : Reader.start.taken ++ (helloArrivals 'c').pieces.flatten =
      Frames.encode ((helloWith 'c').toVec printZero) ++ [] := by
    simp only [helloArrivals, Reader.start, Reader.taken, Frames.encode, List.flatten_cons, List.flatten_nil,
      List.nil_append, List.append_nil]
  have hfrom : (helloWiring 'c').fromSlice ((helloWith 'c').toVec printZero) = some (helloWith 'c') := by
    unfold helloWiring
    dsimp only
    exact readsBack_self _ _
  obtain ⟨rest, hdrive, -⟩ := Reader.drive_whole hsize (Reader.start_within _) hbytes
  exact firstFrame_of_drive ⟨_, rest, hdrive, hfrom⟩

theorem helloWith_payload : HelloRequest.fromValue (helloWith 'c').payload = some ⟨token 'c', "pcln", "1.0.0"⟩ := by
  decide

theorem helloArrivals_presents {secret : List UInt8} (h : Presents (helloWiring 'c') (helloArrivals 'c') secret) :
    Text.utf8 (token 'c').toList = secret := by
  obtain ⟨first, hello, hfirst, -, hpayload, htoken⟩ := h
  rw [helloArrivals_first] at hfirst
  obtain rfl := Except.ok.inj hfirst
  rw [helloWith_payload] at hpayload
  obtain rfl := Option.some.inj hpayload
  exact htoken

/-- Under two other secrets a hello is refused with the same bytes, and under its own it opens the session. -/
theorem stranger_sees_one_refusal :
    (handshake (helloWiring 'c') (Text.utf8 (token 'a').toList) .new (helloArrivals 'c') =
      handshake (helloWiring 'c') (Text.utf8 (token 'b').toList) .new (helloArrivals 'c')) ∧
    (handshake (helloWiring 'c') (Text.utf8 (token 'c').toList) .new (helloArrivals 'c')).ended = none := by
  have hneither : ¬ (Presents (helloWiring 'c') (helloArrivals 'c') (Text.utf8 (token 'a').toList) ∨
      Presents (helloWiring 'c') (helloArrivals 'c') (Text.utf8 (token 'b').toList)) := by
    rintro (h | h)
    · exact absurd (helloArrivals_presents h) (by decide)
    · exact absurd (helloArrivals_presents h) (by decide)
  have hwelcome : Welcome (helloWiring 'c') (helloArrivals 'c') (Text.utf8 (token 'c').toList) (helloWith 'c') :=
    ⟨firstFrame_ok helloArrivals_first, rfl, rfl, by decide, _, helloWith_payload, rfl, rfl, by decide⟩
  obtain ⟨hrefused, hloop⟩ := handshake_shows_the_secret_to_its_bearer (helloWiring 'c') .new (helloArrivals 'c')
  obtain ⟨s, outcome, ha, hb, -⟩ := hrefused _ _ hneither
  exact ⟨ha.trans hb.symm, (hloop rfl _).2 ⟨_, hwelcome⟩⟩

end Session

end Terracotta
