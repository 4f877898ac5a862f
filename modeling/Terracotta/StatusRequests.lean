import Terracotta.Replies
/-!
# Status requests up to the limit (`ipc/session.rs`)

The plugin asks for the status of a room as long as the room is open, in one session.  Every request uses up an id of
the session, and the hello has used one: 4095 status requests are answered, whatever timer and events come between
them, and the next one ends the session.
-/
namespace Terracotta

open Json (escapedLen)

/-- The requests among the labels of a run. -/
def asked : List SessionLabel → List Envelope
  | [] => []
  | .request request _ :: labels => request :: asked labels
  | _ :: labels => asked labels

/-- Status requests with valid ids, the timer and events. -/
def StatusOnly : SessionLabel → Prop
  | .request request _ =>
    request.protocol = protocolVersion ∧ request.messageType = "room.status" ∧ validRequestId request.id = true
  | .tick _ | .event _ | .lagged => True
  | .readError _ | .closed => False

namespace Session

variable {w : Wiring}

/-- What is written next fits a frame: the snapshot that answers a status request, or an event. -/
def Fits (w : Wiring) (s : Session) : SessionLabel → Prop
  | .request request answers =>
    (w.toVec (.response request.id "room.status.result" (s.room.status answers.refresh).2.toValue)).length ≤ maxFrameSize
  | .event event => (w.toVec (writeEvent ((s.eventSequence + 1) % 18446744073709551616) event)).length ≤ maxFrameSize
  | _ => True

/-- The answers among the frames written, by id and type. -/
def answers (s : Session) : List (String × String) :=
  (s.frames.filter (fun e => e.messageType = "room.status.result" ∨ e.messageType = "error")).map
    (fun e => (e.id, e.messageType))

theorem answers_answer {s t : Session} {e : Envelope} (h : t.frames = s.frames ++ [e])
    (he : e.messageType = "room.status.result" ∨ e.messageType = "error") :
    t.answers = s.answers ++ [(e.id, e.messageType)] := by
  unfold answers
  rw [h, List.filter_append, List.map_append]
  simp [he]

theorem answers_other {s t : Session} {e : Envelope} (h : t.frames = s.frames ++ [e])
    (he : ¬ (e.messageType = "room.status.result" ∨ e.messageType = "error")) : t.answers = s.answers := by
  unfold answers
  rw [h, List.filter_append, List.map_append]
  simp [he]

/-- A status request with a new id, below the limit, is answered with the room's snapshot. -/
theorem step_status_eq {s : Session} {request : Envelope} {backend : SessionAnswers} (hopen : s.ended = none)
    (hstatus : StatusOnly (.request request backend)) (hfew : s.requestIds.length < maxRequestIds)
    (hnew : request.id ∉ s.requestIds) :
    ∃ t : Session, t.frames = s.frames ∧ t.requestIds = s.requestIds ++ [request.id] ∧
      step w s (.request request backend) = some
        (t.write w (.response request.id "room.status.result" (s.room.status backend.refresh).2.toValue) none) := by
  obtain ⟨hprotocol, htype, hid⟩ := hstatus
  have hdispatch : request.dispatch = .call .status := by
    unfold Envelope.dispatch
    rw [htype, if_neg (by decide), if_pos rfl]
  have hstep : step w s (.request request backend) = some (s.handleRequest w request backend) := by
    unfold step
    rw [hopen]
  rw [hstep]
  unfold handleRequest
  rw [if_neg (not_not.2 hprotocol), if_neg (by simp [hid]), if_neg (Nat.not_le.2 hfew), if_neg hnew]
  simp only
  rw [if_neg (fun h => absurd h.1 (by rw [htype]; decide))]
  unfold dispatch
  simp only [hdispatch, serve, RoomService.serve]
  refine ⟨_, ?_, ?_, rfl⟩
  · rfl
  · rfl

/-- **A status request with a new id, below the limit.** -/
theorem step_status (hw : w.capacity = none) {s : Session} {request : Envelope} {backend : SessionAnswers}
    (hopen : s.ended = none) (hstatus : StatusOnly (.request request backend))
    (hfew : s.requestIds.length < maxRequestIds) (hnew : request.id ∉ s.requestIds)
    (hfits : Fits w s (.request request backend)) :
    ∃ t, step w s (.request request backend) = some t ∧ t.ended = none ∧
      t.requestIds = s.requestIds ++ [request.id] ∧ t.answers = s.answers ++ [(request.id, "room.status.result")] := by
  obtain ⟨t, hframes, hids, hstep⟩ := step_status_eq (w := w) hopen hstatus hfew hnew
  rw [write_fits hw t none hfits] at hstep
  have hanswers : ∀ u : Session, u.frames = t.frames ++
      [.response request.id "room.status.result" (s.room.status backend.refresh).2.toValue] →
      u.answers = s.answers ++ [(request.id, "room.status.result")] :=
    fun u hu => answers_answer (hframes ▸ hu) (Or.inl rfl)
  exact ⟨_, hstep, rfl, hids, hanswers _ rfl⟩

/-- A snapshot that does not fit a frame ends the session instead. -/
theorem step_status_too_long {s : Session} {request : Envelope} {backend : SessionAnswers} (hopen : s.ended = none)
    (hstatus : StatusOnly (.request request backend)) (hfew : s.requestIds.length < maxRequestIds)
    (hnew : request.id ∉ s.requestIds) (hlong : ¬ Fits w s (.request request backend)) :
    ∃ t n, step w s (.request request backend) = some t ∧ t.ended = some (.error (.invalidLength n)) ∧
      t.frames = s.frames := by
  obtain ⟨t, hframes, -, hstep⟩ := step_status_eq (w := w) hopen hstatus hfew hnew
  rw [write_too_long w t none (Nat.not_le.1 hlong)] at hstep
  exact ⟨_, _, hstep, rfl, hframes⟩

/-- **The next status request, at the limit, is refused and ends the session.** -/
theorem step_limit (hw : w.capacity = none) {s : Session} {request : Envelope} {backend : SessionAnswers}
    (hopen : s.ended = none) (hstatus : StatusOnly (.request request backend))
    (hfull : maxRequestIds ≤ s.requestIds.length) :
    ∃ t, step w s (.request request backend) = some t ∧ t.ended = some (.ok .peerDisconnected) ∧
      t.frames = s.frames ++
        [errorReply request.id "ipc.request-limit" "The IPC session request limit was reached." false] ∧
      t.answers = s.answers ++ [(request.id, "error")] := by
  obtain ⟨hprotocol, -, hid⟩ := hstatus
  have hcode : escapedLen "ipc.request-limit".toList = 17 := by decide
  have hmessage : escapedLen "The IPC session request limit was reached.".toList = 42 := by decide
  have hescaped := escapedLen_valid hid
  have hfits : (w.toVec (errorReply request.id "ipc.request-limit" "The IPC session request limit was reached."
      false)).length ≤ maxFrameSize := by
    rw [length_errorReply, hcode, hmessage]
    unfold maxFrameSize
    omega
  refine ⟨s.handleRequest w request backend, by unfold step; rw [hopen], ?_⟩
  unfold handleRequest
  rw [if_neg (not_not.2 hprotocol), if_neg (by simp [hid]), if_pos hfull, write_fits hw s _ hfits]
  have hanswers : ∀ t : Session, t.frames = s.frames ++
      [errorReply request.id "ipc.request-limit" "The IPC session request limit was reached." false] →
      t.answers = s.answers ++ [(request.id, "error")] :=
    fun t ht => answers_answer ht (Or.inr rfl)
  exact ⟨rfl, rfl, hanswers _ rfl⟩

theorem event_type (event : RoomEvent) (sequence : Nat) : ¬ ((writeEvent sequence event).messageType =
    "room.status.result" ∨ (writeEvent sequence event).messageType = "error") := by
  cases event <;> exact of_decide_eq_false rfl

/-- Timer and events leave ids and answers alone. -/
theorem step_between (hw : w.capacity = none) {s : Session} {label : SessionLabel} (hopen : s.ended = none)
    (hstatus : StatusOnly label) (hfits : Fits w s label) (hasked : asked [label] = []) :
    ∃ t, step w s label = some t ∧ t.ended = none ∧ t.requestIds = s.requestIds ∧ t.answers = s.answers := by
  cases label with
  | request request backend => cases hasked
  | readError _ | closed => exact absurd hstatus id
  | tick refresh =>
    refine ⟨{ s with room := s.room.pollAndEmit refresh }, ?_, hopen, rfl, rfl⟩
    unfold step
    rw [hopen]
  | lagged =>
    refine ⟨s, ?_, hopen, rfl, rfl⟩
    unfold step
    rw [hopen]
  | event event =>
    refine ⟨{ s with eventSequence := (s.eventSequence + 1) % 18446744073709551616 }.write w
      (writeEvent ((s.eventSequence + 1) % 18446744073709551616) event) none, ?_, ?_⟩
    · unfold step
      rw [hopen]
    · rw [write_fits hw _ none hfits]
      exact ⟨rfl, rfl, answers_other rfl (event_type event _)⟩

theorem asked_cons (label : SessionLabel) (labels : List SessionLabel) :
    asked (label :: labels) = asked [label] ++ asked labels := by
  cases label <;> rfl

/-- **Below the limit every status request is answered, and the session stays open.** -/
theorem run_status (hw : w.capacity = none) : ∀ {labels : List SessionLabel} {s : Session}, s.ended = none →
    (∀ label ∈ labels, StatusOnly label) → s.requestIds.length + (asked labels).length ≤ maxRequestIds →
    ((asked labels).map Envelope.id).Nodup → (∀ e ∈ asked labels, e.id ∉ s.requestIds) →
    Run.Along (step w) (Fits w) s labels →
    ∃ t, Run.run (step w) s labels = some t ∧ t.ended = none ∧
      t.requestIds = s.requestIds ++ (asked labels).map Envelope.id ∧
      t.answers = s.answers ++ (asked labels).map (fun e => (e.id, "room.status.result"))
  | [], s, hopen, _, _, _, _, _ => ⟨s, rfl, hopen, by simp [asked], by simp [asked]⟩
  | label :: labels, s, hopen, hstatus, hfew, hnodup, hnew, hfits => by
    have hhead := hstatus label List.mem_cons_self
    have hrest : ∀ l ∈ labels, StatusOnly l := fun l hl => hstatus l (List.mem_cons_of_mem _ hl)
    rw [asked_cons] at hfew hnodup hnew ⊢
    by_cases hasked : asked [label] = []
    · obtain ⟨t, hstep, hopen', hids, hanswers⟩ := step_between hw hopen hhead hfits.1 hasked
      rw [hasked, List.nil_append] at hfew hnodup hnew ⊢
      rw [← hids] at hfew hnew
      obtain ⟨u, hrun, hopen'', hids', hanswers'⟩ :=
        run_status hw hopen' hrest hfew hnodup hnew (Run.along_cons hfits hstep).2
      refine ⟨u, by rw [Run.run, hstep]; exact hrun, hopen'', ?_, ?_⟩
      · rw [hids', hids]
      · rw [hanswers', hanswers]
    · cases label with
      | request request backend =>
        have hone : asked [.request request backend] = [request] := rfl
        rw [hone] at hfew hnodup hnew ⊢
        simp only [List.singleton_append, List.length_cons, List.map_cons, List.nodup_cons, List.mem_cons,
          forall_eq_or_imp] at hfew hnodup hnew ⊢
        obtain ⟨t, hstep, hopen', hids, hanswers⟩ := step_status hw hopen hhead (by omega) hnew.1 hfits.1
        have hfew' : t.requestIds.length + (asked labels).length ≤ maxRequestIds := by
          rw [hids, List.length_append, List.length_singleton]
          omega
        have hnew' : ∀ e ∈ asked labels, e.id ∉ t.requestIds := by
          intro e he hm
          rw [hids] at hm
          rcases List.mem_append.1 hm with hm | hm
          · exact hnew.2 e he hm
          · rw [List.mem_singleton] at hm
            exact hnodup.1 (List.mem_map.2 ⟨e, he, hm⟩)
        obtain ⟨u, hrun, hopen'', hids', hanswers'⟩ :=
          run_status hw hopen' hrest hfew' hnodup.2 hnew' (Run.along_cons hfits hstep).2
        refine ⟨u, by rw [Run.run, hstep]; exact hrun, hopen'', ?_, ?_⟩
        · rw [hids', hids, List.append_assoc]
          rfl
        · rw [hanswers', hanswers, List.append_assoc]
          rfl
      | readError _ | closed | tick _ | event _ | lagged => exact absurd rfl hasked

/-- The requests of a run from the start of a session, below the limit. -/
theorem run_opened (hw : w.capacity = none) (room : RoomService) (helloId : String) {labels : List SessionLabel}
    (hstatus : ∀ label ∈ labels, StatusOnly label) (hids : (helloId :: (asked labels).map Envelope.id).Nodup)
    (hfits : Run.Along (step w) (Fits w) (opened room helloId) labels) (hfew : (asked labels).length ≤ 4095) :
    ∃ s, Run.run (step w) (opened room helloId) labels = some s ∧ s.ended = none ∧
      s.requestIds.length = 1 + (asked labels).length ∧
      s.answers = (asked labels).map (fun e => (e.id, "room.status.result")) := by
  obtain ⟨hhello, hnodup⟩ := List.nodup_cons.1 hids
  have hlength : (opened room helloId).requestIds.length + (asked labels).length ≤ maxRequestIds := by
    show 1 + (asked labels).length ≤ 4096
    omega
  have hnew : ∀ e ∈ asked labels, e.id ∉ (opened room helloId).requestIds := by
    intro e he hm
    have heq : e.id = helloId := List.mem_singleton.1 hm
    exact hhello (List.mem_map.2 ⟨e, he, heq⟩)
  obtain ⟨s, hrun, hopen, hused, hanswers⟩ := run_status hw rfl hstatus hlength hnodup hnew hfits
  refine ⟨s, hrun, hopen, ?_, hanswers⟩
  rw [hused, List.length_append, List.length_map]
  rfl

/-- **4095 status requests are answered, and the next one ends the session**: with valid ids that differ from each other
and from the hello's, any timer and events between them, where what is written fits a frame and the transport takes
it. -/
theorem status_requests_are_answered_up_to_the_limit (w : Wiring) (hw : w.capacity = none) (room : RoomService)
    (helloId : String) (labels : List SessionLabel) (hstatus : ∀ label ∈ labels, StatusOnly label)
    (hids : (helloId :: (asked labels).map Envelope.id).Nodup)
    (hfits : Run.Along (step w) (Fits w) (opened room helloId) labels) :
    ((asked labels).length ≤ 4095 → ∃ s, Run.run (step w) (opened room helloId) labels = some s ∧ s.ended = none ∧
      s.answers = (asked labels).map (fun e => (e.id, "room.status.result"))) ∧
    ((asked labels).length = 4095 → ∀ request backend, StatusOnly (.request request backend) →
      ∃ s t, Run.run (step w) (opened room helloId) labels = some s ∧ step w s (.request request backend) = some t ∧
        t.ended = some (.ok .peerDisconnected) ∧ t.frames = s.frames ++
          [errorReply request.id "ipc.request-limit" "The IPC session request limit was reached." false]) := by
  refine ⟨fun hfew => ?_, fun hall request backend hrequest => ?_⟩
  · obtain ⟨s, hrun, hopen, -, hanswers⟩ := run_opened hw room helloId hstatus hids hfits hfew
    exact ⟨s, hrun, hopen, hanswers⟩
  · obtain ⟨s, hrun, hopen, hused, -⟩ := run_opened hw room helloId hstatus hids hfits (Nat.le_of_eq hall)
    have hfull : maxRequestIds ≤ s.requestIds.length := by
      rw [hused, hall]
      decide
    obtain ⟨t, hstep, hended, hframes, -⟩ := step_limit hw hopen hrequest hfull
    exact ⟨s, t, hrun, hstep, hended, hframes⟩

/-! ## 4096 requests -/

/-- Two printable characters for every number below 4096. -/
def pollId (n : Nat) : String := String.ofList [Char.ofNat (48 + n / 64), Char.ofNat (48 + n % 64)]

def pollRequest (n : Nat) : SessionLabel := .request ⟨1, pollId n, "room.status", .obj []⟩ silentAnswers

theorem toNat_char {n : Nat} (h : n < 55296) : (Char.ofNat n).toNat = n := by
  rw [Char.ofNat, dif_pos (Or.inl h)]
  rfl

theorem pollId_inj {m n : Nat} (hm : m < 4096) (hn : n < 4096) (h : pollId m = pollId n) : m = n := by
  have hlist := String.ofList_injective h
  obtain ⟨hhigh, hlow⟩ := List.cons.inj hlist
  have hhigh := congrArg Char.toNat hhigh
  have hlow := congrArg Char.toNat (List.cons.inj hlow).1
  rw [toNat_char (by omega), toNat_char (by omega)] at hhigh hlow
  omega

theorem pollId_valid {n : Nat} (hn : n < 4096) : validRequestId (pollId n) = true := by
  have hhigh := toNat_char (n := 48 + n / 64) (by omega)
  have hlow := toNat_char (n := 48 + n % 64) (by omega)
  have hsize : Text.utf8Len [Char.ofNat (48 + n / 64), Char.ofNat (48 + n % 64)] ≤ 128 := by
    have h1 := (Char.ofNat (48 + n / 64)).utf8Size_le_four
    have h2 := (Char.ofNat (48 + n % 64)).utf8Size_le_four
    simp only [Text.utf8Len_cons, Text.utf8Len_nil]
    omega
  have hb1 : 32 ≤ 48 + n / 64 ∧ 48 + n / 64 ≤ 126 := by omega
  have hb2 : 32 ≤ 48 + n % 64 ∧ 48 + n % 64 ≤ 126 := by omega
  unfold validRequestId pollId
  rw [String.toList_ofList]
  simp only [List.isEmpty_cons, Bool.not_false, Bool.true_and, Bool.and_eq_true, decide_eq_true_eq, List.all_cons,
    List.all_nil, Bool.and_true, hhigh, hlow]
  exact ⟨hsize, hb1, hb2⟩

theorem asked_polls (ns : List Nat) :
    asked (ns.map pollRequest) = ns.map (fun n => ⟨1, pollId n, "room.status", .obj []⟩) := by
  induction ns with
  | nil => rfl
  | cons n ns ih =>
    show _ :: asked (ns.map pollRequest) = _
    rw [ih]
    rfl

theorem polls_nodup {ns : List Nat} (hns : ∀ n ∈ ns, n < 4096) (hnodup : ns.Nodup) :
    ("hello" :: (asked (ns.map pollRequest)).map Envelope.id).Nodup := by
  rw [asked_polls, List.map_map, List.nodup_cons]
  refine ⟨fun hm => ?_, ?_⟩
  · obtain ⟨n, -, hn⟩ := List.mem_map.1 hm
    have hlen := congrArg (fun s : String => s.toList.length) hn
    simp only [Function.comp, pollId, String.toList_ofList] at hlen
    exact absurd hlen (show ¬ 2 = 5 by decide)
  · exact List.Nodup.map_on (fun m hm n hn h => pollId_inj (hns m hm) (hns n hn) h) hnodup

/-- The room stays new under status requests whose backend has nothing to report. -/
theorem step_poll_room {s t : Session} {n : Nat} (hroom : s.room = .new) (h : step openWiring s (pollRequest n) = some t) :
    t.room = .new := by
  unfold step at h
  cases hended : s.ended with
  | some _ => rw [hended] at h; cases h
  | none =>
    rw [hended] at h
    have ht := Option.some.inj h
    have hhandled := handleRequest_handled openWiring s ⟨1, pollId n, "room.status", .obj []⟩ silentAnswers
    rw [ht] at hhandled
    generalize hb : t.books = b at hhandled
    have hroom' := congrArg Books.room hb
    cases hhandled with
    | ignored _ | noted _ _ _ | dispatched _ => exact hroom'.trans hroom
    | called _ call hcall =>
      have hstatus : call = .status := by cases hcall; rfl
      subst hstatus
      have hserve : (s.room.serve (pollId n) silentAnswers .status).1 = .new := by rw [hroom]; rfl
      exact hroom'.trans hserve

theorem poll_fits {s : Session} {n : Nat} (hn : n < 4096) (hroom : s.room = .new) : Fits openWiring s (pollRequest n) := by
  have hescaped := escapedLen_valid (pollId_valid hn)
  have hprotocol : Text.utf8Len (toString protocolVersion).toList = 1 := by decide
  have htype : escapedLen "room.status.result".toList = 18 := by decide
  have hpayload : Text.utf8Len (Json.write printZero (Json.sortKeys RoomSnapshot.idle.toValue)) ≤ 300 := by
    decide +kernel
  show (openWiring.toVec (.response (pollId n) "room.status.result" (s.room.status (.ok {})).2.toValue)).length ≤ _
  rw [hroom, length_toVec]
  show 42 + Text.utf8Len (toString protocolVersion).toList + escapedLen (pollId n).toList +
    escapedLen "room.status.result".toList +
    Text.utf8Len (Json.write printZero (Json.sortKeys RoomSnapshot.idle.toValue)) ≤ _
  rw [hprotocol, htype]
  unfold maxFrameSize
  omega

theorem polls_fit : ∀ {ns : List Nat} {s : Session}, (∀ n ∈ ns, n < 4096) → s.room = .new →
    Run.Along (step openWiring) (Fits openWiring) s (ns.map pollRequest)
  | [], _, _, _ => trivial
  | n :: ns, s, hns, hroom => by
    refine ⟨poll_fits (hns n List.mem_cons_self) hroom, ?_⟩
    split
    · trivial
    · rename_i t ht
      exact polls_fit (fun m hm => hns m (List.mem_cons_of_mem _ hm)) (step_poll_room hroom ht)

theorem polls_status {ns : List Nat} (hns : ∀ n ∈ ns, n < 4096) : ∀ label ∈ ns.map pollRequest, StatusOnly label := by
  intro label hm
  obtain ⟨n, hn, rfl⟩ := List.mem_map.1 hm
  exact ⟨rfl, rfl, pollId_valid (hns n hn)⟩

theorem length_polls (ns : List Nat) : (asked (ns.map pollRequest)).length = ns.length := by
  rw [asked_polls, List.length_map]

/-- Three polls of the plugin are answered. -/
theorem polls_are_answered : ∃ s, Run.run (step openWiring) (opened .new "hello") ([0, 1, 2].map pollRequest) = some s ∧
    s.ended = none ∧ s.answers = (asked ([0, 1, 2].map pollRequest)).map (fun e => (e.id, "room.status.result")) := by
  have hlt : ∀ n ∈ [0, 1, 2], n < 4096 := by decide
  have hfew : (asked ([0, 1, 2].map pollRequest)).length ≤ 4095 := by
    rw [length_polls]
    decide
  exact (status_requests_are_answered_up_to_the_limit openWiring rfl .new "hello" ([0, 1, 2].map pollRequest)
    (polls_status hlt) (polls_nodup hlt (by decide)) (polls_fit hlt rfl)).1 hfew

/-- The polls of a session whose ids are used up. -/
theorem polls_to_the_limit {n m : Nat} (hn : n = 4095) (hm : m = n + 1) :
    (∀ label ∈ (List.range m).map pollRequest, StatusOnly label) ∧
    ("hello" :: (asked ((List.range m).map pollRequest)).map Envelope.id).Nodup ∧
    Run.Along (step openWiring) (Fits openWiring) (opened .new "hello") ((List.range m).map pollRequest) ∧
    ∃ t, Run.run (step openWiring) (opened .new "hello") ((List.range m).map pollRequest) = some t ∧
      t.ended = some (.ok .peerDisconnected) ∧
      t.answers = (List.range n).map (fun i => (pollId i, "room.status.result")) ++ [(pollId n, "error")] := by
  have hltm : ∀ i ∈ List.range m, i < 4096 := fun i hi => Nat.lt_of_lt_of_le (List.mem_range.1 hi) (by omega)
  have hlt : ∀ i ∈ List.range n, i < 4096 := fun i hi => Nat.lt_of_lt_of_le (List.mem_range.1 hi) (by omega)
  have hlast : StatusOnly (pollRequest n) := ⟨rfl, rfl, pollId_valid (by omega)⟩
  have hfew : (asked ((List.range n).map pollRequest)).length ≤ 4095 := by
    rw [length_polls, List.length_range, hn]
  obtain ⟨s, hrun, hopen, hused, hanswers⟩ := run_opened rfl .new "hello" (polls_status hlt)
    (polls_nodup hlt List.nodup_range) (polls_fit hlt rfl) hfew
  have hfull : maxRequestIds ≤ s.requestIds.length := by
    rw [hused, length_polls, List.length_range, hn]
    decide
  obtain ⟨t, hstep, hended, -, hlimit⟩ := step_limit (w := openWiring) rfl hopen hlast hfull
  refine ⟨polls_status hltm, polls_nodup hltm List.nodup_range, polls_fit hltm rfl, t, ?_, hended, ?_⟩
  · rw [hm, List.range_succ, List.map_append]
    exact Run.run_snoc hrun hstep
  · rw [hlimit, hanswers, asked_polls, List.map_map]
    rfl

/-- A room that has failed with this message. -/
def failedRoom (message : String) : RoomService :=
  { RoomService.new with state := .faulted .host none ⟨"network.easytier-start-failed", message, true⟩ }

theorem failedRoom_too_long {message : String} (hlong : maxFrameSize < escapedLen message.toList) :
    ¬ Fits openWiring (opened (failedRoom message) "hello") (pollRequest 0) := by
  have hmembers := Json.utf8Len_sortMembers printZero ("errorMessage", .str message)
    [("state", .str "faulted"), ("role", .str "host"), ("roomCode", .null), ("localAddress", .null),
      ("gameSessionId", .null), ("network", .null), ("members", .arr []),
      ("errorCode", .str "network.easytier-start-failed")]
  have hmember : escapedLen message.toList ≤
      Text.utf8Len (Json.writeMembers printZero [("errorMessage", Json.sortKeys (.str message))]) := by
    rw [Json.utf8Len_writeMembers]
    show _ ≤ _ + 1 + Text.utf8Len (Json.writeStr message) + _
    rw [Json.utf8Len_writeStr message]
    omega
  have hpayload : Text.utf8Len (Json.writeMembers printZero (Json.sortMembers
      ([("state", .str "faulted"), ("role", .str "host"), ("roomCode", .null), ("localAddress", .null),
        ("gameSessionId", .null), ("network", .null), ("members", .arr []),
        ("errorCode", .str "network.easytier-start-failed")] ++ [("errorMessage", .str message)]))) ≤
      Text.utf8Len (Json.write printZero (Json.sortKeys (failedRoom message).state.toValue)) := by
    have hbraces : ∀ members : List (String × Json.Value), Text.utf8Len (Json.writeMembers printZero members) ≤
        Text.utf8Len (Json.write printZero (.obj members)) := by
      intro members
      show _ ≤ Text.utf8Len ('{' :: Json.writeMembers printZero members ++ ['}'])
      rw [Text.utf8Len_append, Text.utf8Len_cons]
      omega
    exact hbraces _
  intro hfits
  have hfits : (openWiring.toVec (.response (pollId 0) "room.status.result" (failedRoom message).state.toValue)).length ≤
      maxFrameSize := hfits
  rw [length_toVec] at hfits
  have hwhole : Text.utf8Len (Json.write printZero (Json.sortKeys (failedRoom message).state.toValue)) ≤ maxFrameSize :=
    Nat.le_trans (Nat.le_add_left _ _) hfits
  have hle := Nat.le_trans hmember (Nat.le_trans hmembers (Nat.le_trans hpayload hwhole))
  exact absurd hle (Nat.not_le.2 hlong)

/-- The snapshot of a room whose message is too long ends the session with the first poll. -/
theorem long_snapshot_ends_session {message : String} (hlong : maxFrameSize < escapedLen message.toList) :
    ∃ t n, step openWiring (opened (failedRoom message) "hello") (pollRequest 0) = some t ∧
      t.ended = some (.error (.invalidLength n)) := by
  have hnew : pollId 0 ∉ (opened (failedRoom message) "hello").requestIds := by
    show pollId 0 ∉ ["hello"]
    decide
  have hfew : (opened (failedRoom message) "hello").requestIds.length < maxRequestIds := by
    show 1 < 4096
    decide
  have hstatus : StatusOnly (.request ⟨1, pollId 0, "room.status", .obj []⟩ silentAnswers) :=
    ⟨rfl, rfl, pollId_valid (by decide)⟩
  obtain ⟨t, n, hstep, hended, -⟩ := step_status_too_long rfl hstatus hfew hnew (failedRoom_too_long hlong)
  exact ⟨t, n, hstep, hended⟩

/-- **The 4096th poll ends the session**: the ids are valid, differ from each other and from the hello's, what is
written fits, and still the last request is answered with an error.  And a snapshot that does not fit a frame ends it
with the first poll. -/
theorem polling_ends_the_session :
    ((∀ label ∈ (List.range 4096).map pollRequest, StatusOnly label) ∧
    ("hello" :: (asked ((List.range 4096).map pollRequest)).map Envelope.id).Nodup ∧
    Run.Along (step openWiring) (Fits openWiring) (opened .new "hello") ((List.range 4096).map pollRequest) ∧
    ∃ t, Run.run (step openWiring) (opened .new "hello") ((List.range 4096).map pollRequest) = some t ∧
      t.ended = some (.ok .peerDisconnected) ∧
      t.answers = (List.range 4095).map (fun i => (pollId i, "room.status.result")) ++ [(pollId 4095, "error")]) ∧
    ∃ t n, step openWiring (opened (failedRoom (String.ofList (List.replicate 1048577 'a'))) "hello") (pollRequest 0) =
      some t ∧ t.ended = some (.error (.invalidLength n)) := by
  refine ⟨polls_to_the_limit rfl rfl, long_snapshot_ends_session ?_⟩
  rw [String.toList_ofList, escapedLen_replicate]
  decide

end Session

end Terracotta
