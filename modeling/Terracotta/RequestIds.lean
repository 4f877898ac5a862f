import Mathlib
import Terracotta.Requests
/-!
# Request ids (`ipc/session.rs`)

A request that passes the five checks of `handle_request` reaches the dispatch under an id no request of the session has
had before, and the two requests that enter a room reach the room service behind an identity.  `Handled` says what a
request can do to the session's books, `Ledger` what the books of every session keep to.
-/
namespace Terracotta

namespace Session

variable {w : Wiring} {s t : Session}

/-! ## What a request changes -/

/-- A write changes what is written, and may end the session. -/
theorem write_frame (w : Wiring) (s : Session) (e : Envelope) (outcome : Option SessionOutcome) :
    ∃ frames torn ended, s.write w e outcome = { s with frames, torn, ended } := by
  unfold write
  cases writeFrame w.toVec e with
  | error error => exact ⟨_, _, _, rfl⟩
  | ok bytes => cases w.capacity <;> simp only <;> split <;> exact ⟨_, _, _, rfl⟩

/-- What the loop keeps of the requests, without what it has written. -/
structure Books where
  requestIds : List String
  identity : Option (List UInt8)
  room : RoomService
  dispatched : List Envelope
  calls : List (String × RoomRequest)

def books (s : Session) : Books := ⟨s.requestIds, s.identity, s.room, s.dispatched, s.calls⟩

theorem books_write (w : Wiring) (s : Session) (e : Envelope) (outcome : Option SessionOutcome) :
    (s.write w e outcome).books = s.books := by
  obtain ⟨frames, torn, ended, h⟩ := write_frame w s e outcome
  rw [h]
  rfl

/-- A request that one of the five checks refuses. -/
def Refused (s : Session) (request : Envelope) : Prop :=
  request.protocol ≠ protocolVersion ∨ validRequestId request.id = false ∨ maxRequestIds ≤ s.requestIds.length ∨
    request.id ∈ s.requestIds ∨
    ((request.messageType = "room.create" ∨ request.messageType = "room.join") ∧ s.identity = none)

instance (s : Session) (request : Envelope) : Decidable (Refused s request) :=
  inferInstanceAs (Decidable (_ ∨ _ ∨ _ ∨ _ ∨ _))

/-- The books once the request is past the checks on its id. -/
def Books.note (b : Books) (request : Envelope) : Books := { b with requestIds := b.requestIds ++ [request.id] }

def Books.dispatch (b : Books) (request : Envelope) : Books :=
  { b.note request with dispatched := b.dispatched ++ [request] }

/-- The books behind a call of the room service. -/
def Books.call (b : Books) (request : Envelope) (answers : SessionAnswers) (call : RoomRequest) : Books :=
  { b.dispatch request with
    room := (b.room.serve request.id answers call).1
    identity := match call with
      | .initializeIdentity key => some key
      | _ => b.identity
    calls := b.calls ++ [(request.id, call)] }

/-- **What a request can do to the books.** -/
inductive Handled (s : Session) (request : Envelope) (answers : SessionAnswers) : Books → Prop where
  | ignored (hrefused : s.Refused request) : Handled s request answers s.books
  | noted (hrefused : s.Refused request) (hfew : s.requestIds.length < maxRequestIds) (hnew : request.id ∉ s.requestIds) :
      Handled s request answers (s.books.note request)
  | dispatched (hpassed : ¬ s.Refused request) : Handled s request answers (s.books.dispatch request)
  | called (hpassed : ¬ s.Refused request) (call : RoomRequest) (hcall : request.dispatch = .call call) :
      Handled s request answers (s.books.call request answers call)

theorem handleRequest_handled (w : Wiring) (s : Session) (request : Envelope) (answers : SessionAnswers) :
    Handled s request answers (s.handleRequest w request answers).books := by
  unfold handleRequest
  by_cases hprotocol : request.protocol ≠ protocolVersion
  · rw [if_pos hprotocol, books_write]
    exact .ignored (Or.inl hprotocol)
  rw [if_neg hprotocol]
  by_cases hid : validRequestId request.id = false
  · rw [if_pos (by simp [hid]), books_write]
    exact .ignored (Or.inr (Or.inl hid))
  rw [if_neg (by simpa using hid)]
  by_cases hlimit : maxRequestIds ≤ s.requestIds.length
  · rw [if_pos hlimit, books_write]
    exact .ignored (Or.inr (Or.inr (Or.inl hlimit)))
  rw [if_neg hlimit]
  by_cases hold : request.id ∈ s.requestIds
  · rw [if_pos hold, books_write]
    exact .ignored (Or.inr (Or.inr (Or.inr (Or.inl hold))))
  rw [if_neg hold]
  simp only
  by_cases hidentity : (request.messageType = "room.create" ∨ request.messageType = "room.join") ∧ s.identity = none
  · rw [if_pos hidentity, books_write]
    exact .noted (Or.inr (Or.inr (Or.inr (Or.inr hidentity)))) (Nat.lt_of_not_le hlimit) hold
  rw [if_neg hidentity]
  have hpassed : ¬ s.Refused request := by
    rintro (h | h | h | h | h)
    · exact hprotocol h
    · exact hid h
    · exact hlimit h
    · exact hold h
    · exact hidentity h
  unfold dispatch
  simp only
  cases hd : request.dispatch with
  | call call =>
    simp only [serve]
    rw [books_write]
    exact .called hpassed call hd
  | refuse code message =>
    simp only
    rw [books_write]
    exact .dispatched hpassed
  | shutdown =>
    simp only
    rw [books_write]
    exact .dispatched hpassed

/-- What a turn of the loop can do to the books. -/
theorem step_books {label : SessionLabel} (h : step w s label = some t) :
    (∃ request answers, label = .request request answers ∧ Handled s request answers t.books) ∨
      ∃ room, t.books = { s.books with room } := by
  unfold step at h
  cases hended : s.ended with
  | some _ => rw [hended] at h; cases h
  | none =>
    rw [hended] at h
    cases label with
    | request request answers =>
      cases h
      exact Or.inl ⟨request, answers, rfl, handleRequest_handled w s request answers⟩
    | readError error => cases error <;> cases h <;> exact Or.inr ⟨s.room, rfl⟩
    | tick refresh => cases h; exact Or.inr ⟨_, rfl⟩
    | event event =>
      have ht := Option.some.inj h
      refine Or.inr ⟨s.room, ?_⟩
      rw [← ht, books_write]
      rfl
    | lagged | closed => cases h; exact Or.inr ⟨s.room, rfl⟩

end Session

/-! ## At most once -/

/-- A create or a join. -/
def RoomRequest.opens : RoomRequest → Bool
  | .create _ | .join _ => true
  | _ => false

def RoomRequest.initializes : RoomRequest → Bool
  | .initializeIdentity _ => true
  | _ => false

namespace Session

/-- **The books of a session**: its ids are few and used once, what reached the dispatch is among them, and rooms are
entered with an identity. -/
structure Ledger (helloId : String) (b : Books) : Prop where
  few : b.requestIds.length ≤ maxRequestIds
  hello : helloId ∈ b.requestIds
  once : (b.dispatched.map Envelope.id).Nodup
  known : ∀ e ∈ b.dispatched, e.id ∈ b.requestIds ∧ e.id ≠ helloId
  fewer : b.dispatched.length < b.requestIds.length
  calls : (b.calls.map Prod.fst).Sublist (b.dispatched.map Envelope.id)
  identity : b.identity ≠ none → ∃ call ∈ b.calls, call.2.initializes = true
  entered : ∀ before call after, b.calls = before ++ call :: after → call.2.opens = true →
    ∃ first ∈ before, first.2.initializes = true

theorem ledger_opened (room : RoomService) (helloId : String) : Ledger helloId (opened room helloId).books where
  few := (by decide : 1 ≤ maxRequestIds)
  hello := List.mem_singleton_self _
  once := List.nodup_nil
  known := fun _ h => by cases h
  fewer := Nat.zero_lt_one
  calls := List.Sublist.refl _
  identity := fun h => absurd rfl h
  entered := fun before call after h => by cases before <;> cases h

theorem ledger_note {helloId : String} {b : Books} {request : Envelope} (h : Ledger helloId b)
    (hfew : b.requestIds.length < maxRequestIds) : Ledger helloId (b.note request) :=
  { h with
    few := by
      simp only [Books.note, List.length_append, List.length_singleton]
      omega
    hello := List.mem_append_left _ h.hello
    known := fun e he => ⟨List.mem_append_left _ (h.known e he).1, (h.known e he).2⟩
    fewer := by
      have := h.fewer
      simp only [Books.note, List.length_append, List.length_singleton]
      omega }

theorem ledger_dispatch {helloId : String} {b : Books} {request : Envelope} (h : Ledger helloId b)
    (hfew : b.requestIds.length < maxRequestIds) (hnew : request.id ∉ b.requestIds) :
    Ledger helloId (b.dispatch request) :=
  have hnote : Ledger helloId (b.note request) := ledger_note h hfew
  { hnote with
    once := by
      simp only [Books.dispatch, List.map_append, List.map_cons, List.map_nil]
      refine List.Nodup.append h.once (List.nodup_singleton _) (fun id hid hid' => ?_)
      obtain ⟨e, he, heq⟩ := List.mem_map.1 hid
      rw [← List.mem_singleton.1 hid', ← heq] at hnew
      exact hnew (h.known e he).1
    known := fun e he => by
      rcases List.mem_append.1 he with he | he
      · exact ⟨List.mem_append_left _ (h.known e he).1, (h.known e he).2⟩
      · rw [List.mem_singleton.1 he]
        refine ⟨List.mem_append_right _ (List.mem_singleton_self _), fun heq => hnew ?_⟩
        rw [heq]
        exact h.hello
    fewer := by
      have := h.fewer
      simp only [Books.dispatch, Books.note, List.length_append, List.length_singleton]
      omega
    calls := by
      simp only [Books.dispatch, Books.note, List.map_append]
      exact h.calls.trans (List.sublist_append_left _ _) }

theorem ofPayload_call {α : Type} {messageType : String} {make : α → RoomRequest} {payload : Option α}
    {call : RoomRequest} (h : Dispatch.ofPayload messageType make payload = .call call) : ∃ a, call = make a := by
  cases payload with
  | none => cases h
  | some a => cases h; exact ⟨a, rfl⟩

/-- Only two types of request enter a room. -/
theorem dispatch_opens {request : Envelope} {call : RoomRequest} (h : request.dispatch = .call call)
    (hcall : call.opens = true) : request.messageType = "room.create" ∨ request.messageType = "room.join" := by
  by_contra hno
  obtain ⟨hcreate, hjoin⟩ := not_or.1 hno
  unfold Envelope.dispatch at h
  rw [if_neg hcreate, if_neg hjoin] at h
  split at h
  · split at h
    · cases h
    · split at h
      · cases h
      · cases h; cases hcall
  split at h
  · cases h; cases hcall
  split at h
  · cases h; cases hcall
  split at h
  · obtain ⟨a, rfl⟩ := ofPayload_call h
    cases hcall
  split at h
  · cases h; cases hcall
  split at h
  · cases h
  · cases h

theorem ledger_call {helloId : String} {s : Session} {request : Envelope} {answers : SessionAnswers} {call : RoomRequest}
    (h : Ledger helloId s.books) (hpassed : ¬ s.Refused request) (hcall : request.dispatch = .call call) :
    Ledger helloId (s.books.call request answers call) := by
  have hfew : s.requestIds.length < maxRequestIds :=
    Nat.lt_of_not_le (fun hl => hpassed (Or.inr (Or.inr (Or.inl hl))))
  have hnew : request.id ∉ s.requestIds := fun hm => hpassed (Or.inr (Or.inr (Or.inr (Or.inl hm))))
  have hdispatch : Ledger helloId (s.books.dispatch request) := ledger_dispatch h hfew hnew
  refine { hdispatch with calls := ?_, identity := ?_, entered := ?_ }
  · simp only [Books.call, Books.dispatch, Books.note, List.map_append]
    exact h.calls.append (List.Sublist.refl _)
  · intro hidentity
    cases call with
    | initializeIdentity key => exact ⟨_, List.mem_append_right _ (List.mem_singleton_self _), rfl⟩
    | status | leave | create _ | join _ | setLanAddress _ | diagnose =>
      obtain ⟨first, hfirst, hinit⟩ := h.identity hidentity
      exact ⟨first, List.mem_append_left _ hfirst, hinit⟩
  · intro before x after heq hopens
    rcases List.append_eq_append_iff.1 heq with ⟨mid, hbefore, hlast⟩ | ⟨mid, hcalls, hlast⟩
    · -- the call entered now
      have hx : x = (request.id, call) ∧ mid = [] := by
        cases mid with
        | nil => exact ⟨(List.cons.inj hlast).1.symm, rfl⟩
        | cons y mid =>
          have hlen := congrArg List.length hlast
          simp at hlen
      obtain ⟨rfl, rfl⟩ := hx
      rw [List.append_nil] at hbefore
      have hidentity : s.identity ≠ none := fun hn =>
        hpassed (Or.inr (Or.inr (Or.inr (Or.inr ⟨dispatch_opens hcall hopens, hn⟩))))
      rw [hbefore]
      exact h.identity hidentity
    · cases mid with
      | nil =>
        have hx : x = (request.id, call) := (List.cons.inj hlast).1
        subst hx
        have hidentity : s.identity ≠ none := fun hn =>
          hpassed (Or.inr (Or.inr (Or.inr (Or.inr ⟨dispatch_opens hcall hopens, hn⟩))))
        rw [List.append_nil] at hcalls
        rw [← hcalls]
        exact h.identity hidentity
      | cons y mid =>
        obtain ⟨rfl, -⟩ := List.cons.inj hlast
        exact h.entered before x mid hcalls hopens

/-- **One turn of the loop keeps the books.** -/
theorem step_ledger {helloId : String} {label : SessionLabel} (h : Ledger helloId s.books)
    (hstep : step w s label = some t) : Ledger helloId t.books := by
  rcases step_books hstep with ⟨request, answers, -, hhandled⟩ | ⟨room, hroom⟩
  · generalize t.books = b at hhandled
    cases hhandled with
    | ignored _ => exact h
    | noted _ hfew _ => exact ledger_note h hfew
    | dispatched hpassed =>
      exact ledger_dispatch h (Nat.lt_of_not_le (fun hl => hpassed (Or.inr (Or.inr (Or.inl hl)))))
        (fun hm => hpassed (Or.inr (Or.inr (Or.inr (Or.inl hm)))))
    | called hpassed call hcall => exact ledger_call h hpassed hcall
  · rw [hroom]
    exact { h with }

/-- **A refused request leaves room, identity and calls as they are.** -/
theorem refused_changes_nothing (w : Wiring) {s : Session} {request : Envelope} (hrefused : s.Refused request)
    (answers : SessionAnswers) : (s.handleRequest w request answers).room = s.room ∧
      (s.handleRequest w request answers).identity = s.identity ∧
      (s.handleRequest w request answers).calls = s.calls ∧
      (s.handleRequest w request answers).dispatched = s.dispatched := by
  have hhandled := handleRequest_handled w s request answers
  generalize hb : (s.handleRequest w request answers).books = b at hhandled
  have hroom := congrArg Books.room hb
  have hidentity := congrArg Books.identity hb
  have hcalls := congrArg Books.calls hb
  have hdispatched := congrArg Books.dispatched hb
  cases hhandled with
  | ignored _ => exact ⟨hroom, hidentity, hcalls, hdispatched⟩
  | noted _ _ _ => exact ⟨hroom, hidentity, hcalls, hdispatched⟩
  | dispatched hpassed => exact absurd hrefused hpassed
  | called hpassed _ _ => exact absurd hrefused hpassed

/-- **A session serves a request id once**, whatever requests, timer and events come in which order. -/
theorem requests_are_served_once (w : Wiring) (room : RoomService) (helloId : String) (labels : List SessionLabel)
    (s : Session) (hrun : Run.run (step w) (opened room helloId) labels = some s) :
    (s.dispatched.map Envelope.id).Nodup ∧ (s.calls.map Prod.fst).Nodup ∧
    (∀ call ∈ s.calls, ∃ e ∈ s.dispatched, e.id = call.1) ∧ (∀ e ∈ s.dispatched, e.id ≠ helloId) ∧
    s.dispatched.length ≤ 4095 ∧
    (∀ before call after, s.calls = before ++ call :: after → call.2.opens = true →
      ∃ first ∈ before, first.2.initializes = true) ∧
    ∀ request answers, s.Refused request → (s.handleRequest w request answers).room = s.room ∧
      (s.handleRequest w request answers).identity = s.identity ∧
      (s.handleRequest w request answers).calls = s.calls ∧
      (s.handleRequest w request answers).dispatched = s.dispatched := by
  have h : Ledger helloId s.books :=
    Run.invariant_all (fun s => Ledger helloId s.books) (fun _ _ _ hs hstep => step_ledger hs hstep)
      (ledger_opened room helloId) hrun
  refine ⟨h.once, h.once.sublist h.calls, ?_, fun e he => (h.known e he).2, ?_, h.entered,
    fun request answers hrefused => refused_changes_nothing w hrefused answers⟩
  · intro call hcall
    have hm := h.calls.subset (List.mem_map_of_mem hcall)
    obtain ⟨e, he, heq⟩ := List.mem_map.1 hm
    exact ⟨e, he, heq⟩
  · have hfewer := h.fewer
    have hfew := h.few
    simp only [books, maxRequestIds] at hfewer hfew
    omega

def sampleIdentity : Envelope :=
  ⟨1, "1", "identity.initialize", .obj [("privateKey", .str "00112233445566778899aabbccddeeff00112233445566778899aabbccddeeff")]⟩

def sampleCreate : Envelope :=
  ⟨1, "2", "room.create", .obj [("gameSessionId", .str "session-1"), ("lanAddress", .str "127.0.0.1:25565"),
    ("preferDirect", .bool true), ("allowRelay", .bool true)]⟩

/-- An identity, a create, and a status request that repeats its id. -/
def createOnce : List SessionLabel :=
  [.request sampleIdentity silentAnswers, .request sampleCreate silentAnswers,
    .request ⟨1, "2", "room.status", .obj []⟩ silentAnswers]

theorem create_is_served_once : ∃ s, Run.run (step openWiring) (opened .new "hello") createOnce = some s ∧
    s.calls.map Prod.fst = ["1", "2"] ∧ (s.calls.map Prod.fst).Nodup ∧ s.dispatched.length ≤ 4095 := by
  have hrun : (Run.run (step openWiring) (opened .new "hello") createOnce).any
      (fun s => s.calls.map Prod.fst = ["1", "2"]) = true := by decide +kernel
  obtain ⟨s, hs, hcalls⟩ := (Option.any_eq_true _ _).1 hrun
  obtain ⟨-, hnodup, -, -, hfew, -⟩ := requests_are_served_once openWiring .new "hello" createOnce s hs
  exact ⟨s, hs, of_decide_eq_true hcalls, hnodup, hfew⟩

end Session

end Terracotta
