import Terracotta.Run
import Terracotta.Serving
/-!
# A client of Scaffolding and its server (`scaffolding/client.rs`, `scaffolding/server.rs`)

A client writes a request and reads a response, ten seconds long; the server reads a request and writes a response.  No
response says which request it answers.  A label says who moves: a call begins, the server takes a request, the client
takes a byte, the client's time is over, or the connection ends on either side.
-/
namespace Terracotta

open Json (Value)
open Codec (writeAll)
open Run (run run_cons run_append)

/-! ## The calls of a client -/

/-- What libraries make of bytes: `serde_json`, of a text, and `String::from_utf8_lossy`. -/
structure Decoder where
  parse : List UInt8 → Option Value
  lossy : List UInt8 → String

inductive ClientError where
  | scaffolding (error : ScaffoldingError)
  | json
  | remoteStatus (status : UInt8) (message : String)
deriving DecidableEq

/-- The calls of `ScaffoldingClient`. -/
inductive ClientCall where
  | ping (payload : List UInt8)
  | minecraftPort
  | playerProfiles
  | heartbeat
deriving DecidableEq

/-- What the calls return; of a heartbeat the players, and not how long it took. -/
inductive ClientValue where
  | payload (bytes : List UInt8)
  | port (port : Nat)
  | players (profiles : List PlayerProfile)
deriving DecidableEq

namespace ClientCall

/-- How many requests a call sends, one after another. -/
def stages : ClientCall → Nat
  | .heartbeat => 2
  | _ => 1

def request (profile : PlayerProfile) : ClientCall → Nat → RequestFrame
  | .ping payload, _ => ⟨"c:ping", payload⟩
  | .minecraftPort, _ => ⟨"c:server_port", []⟩
  | .heartbeat, 0 => ⟨"c:player_ping", Text.utf8 (Json.write (fun _ => []) profile.toValue)⟩
  | .playerProfiles, _ | .heartbeat, _ + 1 => ⟨"c:player_profiles_list", []⟩

/-- The check a call makes before it sends anything. -/
def check : ClientCall → Except ClientError Unit
  | .ping payload =>
    if 32 ≤ payload.length then .error (.scaffolding (.invalidFrame "ping payload must be shorter than 32 bytes"))
    else .ok ()
  | _ => .ok ()

def decodeProfiles (d : Decoder) (body : List UInt8) : Except ClientError ClientValue :=
  match d.parse body with
  | some (.arr items) => match items.mapM PlayerProfile.fromValue with
    | some profiles =>
      if profiles.any (fun p => !p.validate) then
        .error (.scaffolding (.invalidFrame "server returned an invalid player profile"))
      else .ok (.players profiles)
    | none => .error .json
  | _ => .error .json

/-- What a call makes of the body of its last response. -/
def decode (d : Decoder) : ClientCall → List UInt8 → Except ClientError ClientValue
  | .ping _, body => .ok (.payload body)
  | .minecraftPort, body =>
    if body.length ≠ 2 then
      .error (.scaffolding (.invalidFrame "server port response must contain exactly two bytes"))
    else .ok (.port (ofBigEndian body))
  | .playerProfiles, body | .heartbeat, body => decodeProfiles d body

end ClientCall

/-! ## The two ends and what is between them -/

/-- A call in `read_response`: the number of its first request on this connection, which of its requests it waits with, and
the bytes of the response it has taken. -/
structure PendingCall where
  call : ClientCall
  first : Nat
  stage : Nat
  received : List UInt8
deriving DecidableEq

structure Returned where
  call : ClientCall
  first : Nat
  result : Except ClientError ClientValue
deriving DecidableEq

/-- A client and its server.  The last three fields record what went on: the requests the client wrote, the requests the
server read with its response to each, and what the calls returned. -/
structure Link where
  profile : PlayerProfile
  context : ServerContext
  serving : Bool -- `serve_client` has not returned
  connected : Bool
  toServer : List UInt8
  toClient : List UInt8
  pending : Option PendingCall
  asked : List RequestFrame
  answered : List (RequestFrame × ResponseFrame)
  returned : List Returned
deriving DecidableEq

inductive LinkLabel where
  | call (call : ClientCall)
  | serve (now : Nat)
  | receive
  | timeout
  | eof
  -- the server shuts down, and of what it wrote only this much has gone out
  | stop (sent : Nat)
  | reset
  -- pings of other connections, and the cleanup
  | others (call : GuestCall)
deriving DecidableEq

def LinkLabel.isCall : LinkLabel → Bool
  | .call _ => true
  | _ => false

namespace Link

variable (d : Decoder)

/-- A connection that `connect` has returned: both of its responses are read. -/
def connect (profile : PlayerProfile) (context : ServerContext) : Link :=
  ⟨profile, context, true, true, [], [], none, [], [], []⟩

def finish (s : Link) (call : ClientCall) (first : Nat) (result : Except ClientError ClientValue) : Link :=
  { s with pending := none, returned := s.returned ++ [⟨call, first, result⟩] }

/-- `write_request`, and the wait for the response. -/
def ask (s : Link) (call : ClientCall) (first stage : Nat) : Link :=
  let request := call.request s.profile stage
  if !s.connected then s.finish call first (.error (.scaffolding (.io "broken pipe")))
  else match request.write with
    | .error e => s.finish call first (.error (.scaffolding e))
    | .ok bytes => { s with
        toServer := s.toServer ++ bytes, asked := s.asked ++ [request], pending := some ⟨call, first, stage, []⟩ }

/-- The status of a response, and then the next request of its call or the end of it. -/
def resume (s : Link) (p : PendingCall) (response : ResponseFrame) : Link :=
  if response.status ≠ 0 then
    let message := if response.status = 255 then d.lossy response.body else "remote request rejected"
    s.finish p.call p.first (.error (.remoteStatus response.status message))
  else if p.stage + 1 < p.call.stages then s.ask p.call p.first (p.stage + 1)
  else s.finish p.call p.first (p.call.decode d response.body)

def begin (s : Link) (call : ClientCall) : Link :=
  match call.check with
  | .error e => s.finish call s.asked.length (.error e)
  | .ok _ => s.ask call s.asked.length 0

/-- The client takes a byte. -/
def receive (s : Link) (p : PendingCall) (b : UInt8) (rest : List UInt8) : Link :=
  let received := p.received ++ [b]
  let s := { s with toClient := rest }
  match readResponse received with
  | .ok (response, _) => s.resume d p response
  | .error (.invalidFrame text) => s.finish p.call p.first (.error (.scaffolding (.invalidFrame text)))
  | .error (.io _) => { s with pending := some { p with received := received } }

/-- `serve_client` with the request that is there. -/
def serve (s : Link) (now : Nat) : Option Link :=
  if !(s.serving && s.connected) then none
  else match readRequest s.toServer with
    | .error (.io _) => none -- it waits for the rest
    | .error (.invalidFrame _) => some { s with serving := false }
    | .ok (request, rest) =>
      match s.context.serveClient d.parse request now with
      | (context, .error _) => some { s with context := context, toServer := rest, serving := false }
      | (context, .ok bytes) => some { s with
          context := context, toServer := rest, toClient := s.toClient ++ bytes,
          answered := s.answered ++ [(request, (s.context.answer d.parse request now).2)] }

def step (s : Link) : LinkLabel → Option Link
  | .call call => match s.pending with
    | some _ => none
    | none => some (s.begin call)
  | .serve now => s.serve d now
  | .receive => match s.pending, s.toClient with
    | some p, b :: rest => if s.connected then some (s.receive d p b rest) else none
    | _, _ => none
  | .timeout => match s.pending with
    | some p => some (s.finish p.call p.first (.error (.scaffolding (.io "Scaffolding response timed out"))))
    | none => none
  | .eof => match s.pending with
    | some p =>
      if s.toClient = [] ∧ s.serving = false then
        some (s.finish p.call p.first (.error (.scaffolding (.io "unexpected end of file"))))
      else none
    | none => none
  | .stop sent => some { s with serving := false, toClient := s.toClient.take sent }
  | .reset =>
    let s := { s with connected := false }
    match s.pending with
    | some p => some (s.finish p.call p.first (.error (.scaffolding (.io "connection reset by peer"))))
    | none => some s
  | .others call => some { s with context := s.context.apply call }

/-- The response of status 0 to a request of a call is the one the server gave to that very request. -/
def OwnResponse (s : Link) (call : ClientCall) (first stage : Nat) (body : List UInt8) : Prop :=
  s.asked[first + stage]? = some (call.request s.profile stage) ∧
    s.answered[first + stage]? = some (call.request s.profile stage, ⟨0, body⟩)

/-- **Every call that returned a value returned the server's answer to its own requests**: the decoded body of the response
to its last one, behind responses of status 0 to the others. -/
def OwnAnswers (s : Link) : Prop :=
  ∀ r ∈ s.returned, ∀ value, r.result = .ok value →
    (∀ stage < r.call.stages, ∃ body, s.OwnResponse r.call r.first stage body) ∧
    ∃ body, s.OwnResponse r.call r.first (r.call.stages - 1) body ∧ r.call.decode d body = .ok value

/-! ## In step -/

variable {d} {s : Link} {call : ClientCall} {first stage : Nat} {body : List UInt8}

theorem OwnResponse.mono {t : Link} (h : s.OwnResponse call first stage body) (hprofile : t.profile = s.profile)
    (hasked : s.asked <+: t.asked) (hanswered : s.answered <+: t.answered) : t.OwnResponse call first stage body := by
  obtain ⟨more, hmore⟩ := hasked
  obtain ⟨answers, hanswers⟩ := hanswered
  unfold OwnResponse
  rw [hprofile, ← hmore, ← hanswers]
  exact ⟨by rw [List.getElem?_append_left (List.getElem?_eq_some_iff.1 h.1).1]; exact h.1,
    by rw [List.getElem?_append_left (List.getElem?_eq_some_iff.1 h.2).1]; exact h.2⟩

theorem OwnAnswers.mono {t : Link} (h : s.OwnAnswers d) (hprofile : t.profile = s.profile) (hasked : s.asked <+: t.asked)
    (hanswered : s.answered <+: t.answered) (hreturned : t.returned = s.returned) : t.OwnAnswers d := by
  intro r hr value hvalue
  rw [hreturned] at hr
  obtain ⟨hall, body, hown, hdecode⟩ := h r hr value hvalue
  refine ⟨fun stage hstage => ?_, body, hown.mono hprofile hasked hanswered, hdecode⟩
  obtain ⟨body, hown⟩ := hall stage hstage
  exact ⟨body, hown.mono hprofile hasked hanswered⟩

/-- What holds whether a call waits or none does: what was returned, and that the server finds the requests it has not read
and no byte else. -/
structure Orderly (d : Decoder) (s : Link) : Prop where
  own : s.OwnAnswers d
  answers : s.answered.length ≤ s.asked.length
  sent : s.serving = true → s.connected = true →
    writeAll RequestFrame.write (s.asked.drop s.answered.length) = .ok s.toServer

/-- Nothing is on its way to the client, and nothing will be. -/
def Quiet (s : Link) : Prop :=
  s.connected = true → s.toClient = [] ∧ (s.serving = true → s.answered.length = s.asked.length)

/-- **A call that waits, waits for the response to the last request**: it is not given yet, or some of it is taken and some
is not. -/
structure Awaits (s : Link) (p : PendingCall) : Prop where
  last : s.asked.length = p.first + p.stage + 1
  stage : p.stage < p.call.stages
  request : s.asked[p.first + p.stage]? = some (p.call.request s.profile p.stage)
  earlier : ∀ stage < p.stage, ∃ body, s.OwnResponse p.call p.first stage body
  bytes : (p.received = [] ∧ s.toClient = [] ∧ s.answered.length ≤ p.first + p.stage ∧
      (s.serving = true → s.connected = true → s.answered.length = p.first + p.stage)) ∨
    ∃ response lost, s.answered[p.first + p.stage]? = some (p.call.request s.profile p.stage, response) ∧
      s.answered.length = s.asked.length ∧ response.write = .ok (p.received ++ (s.toClient ++ lost)) ∧
      s.toClient ++ lost ≠ []

/-- **The two ends are in step.** -/
structure InStep (d : Decoder) (s : Link) : Prop where
  orderly : Orderly d s
  idle : s.pending = none → Quiet s
  waiting : ∀ p, s.pending = some p → Awaits s p

/-- A call ends while nothing is on its way. -/
theorem finish_inStep (h : Orderly d s) (hquiet : Quiet s) {result : Except ClientError ClientValue}
    (hresult : ∀ value, result = .ok value → (∀ stage < call.stages, ∃ body, s.OwnResponse call first stage body) ∧
      ∃ body, s.OwnResponse call first (call.stages - 1) body ∧ call.decode d body = .ok value) :
    InStep d (s.finish call first result) where
  orderly := {
    own := by
      intro r hr value hvalue
      rcases List.mem_append.1 hr with hr | hr
      · exact h.own r hr value hvalue
      · obtain rfl := List.mem_singleton.1 hr
        exact hresult value hvalue
    answers := h.answers
    sent := h.sent }
  idle := fun _ => hquiet
  waiting := fun p hp => by cases hp

/-- A call that ends in an error. -/
theorem finish_error_inStep (h : Orderly d s) (hquiet : Quiet s) (e : ClientError) :
    InStep d (s.finish call first (.error e)) :=
  finish_inStep h hquiet fun value hvalue => by cases hvalue

/-- **A request is written while nothing is on its way.** -/
theorem ask_inStep (h : Orderly d s) (hquiet : Quiet s) (hlast : s.asked.length = first + stage)
    (hstage : stage < call.stages) (hearlier : ∀ k < stage, ∃ body, s.OwnResponse call first k body) :
    InStep d (s.ask call first stage) := by
  unfold ask
  simp only
  split
  · exact finish_error_inStep h hquiet _
  · rename_i hconnected
    simp only [Bool.not_eq_true, Bool.not_eq_false'] at hconnected
    obtain ⟨hempty, hlevel⟩ := hquiet hconnected
    split
    · exact finish_error_inStep h hquiet _
    · rename_i bytes hwrite
      have hprefix : s.asked <+: s.asked ++ [call.request s.profile stage] := List.prefix_append _ _
      refine ⟨⟨h.own.mono rfl hprefix (List.prefix_refl _) rfl, ?_, ?_⟩, fun hnone => (by cases hnone), ?_⟩
      · simp only [List.length_append]
        exact Nat.le_trans h.answers (Nat.le_add_right _ _)
      · intro hserving hconnected
        simp only
        rw [List.drop_append_of_le_length h.answers]
        exact Codec.writeAll_snoc (h.sent hserving hconnected) hwrite
      · intro p hp
        cases hp
        refine ⟨?_, hstage, ?_, fun k hk => ?_, Or.inl ⟨rfl, hempty, ?_, ?_⟩⟩
        · simp only [List.length_append, List.length_singleton]
          omega
        · simp only [← hlast, List.getElem?_concat_length]
        · obtain ⟨body, hown⟩ := hearlier k hk
          exact ⟨body, hown.mono rfl hprefix (List.prefix_refl _)⟩
        · exact Nat.le_trans h.answers (Nat.le_of_eq hlast)
        · exact fun hserving _ => (hlevel hserving).trans hlast

theorem begin_inStep (h : InStep d s) (hidle : s.pending = none) (call : ClientCall) : InStep d (s.begin call) := by
  have hpos : 0 < call.stages := by cases call <;> exact Nat.zero_lt_succ _
  unfold begin
  split
  · exact finish_error_inStep h.orderly (h.idle hidle) _
  · exact ask_inStep h.orderly (h.idle hidle) rfl hpos fun k hk => absurd hk (Nat.not_lt_zero k)

/-- **A response is read to its end**: the call goes on with its next request, or returns. -/
theorem resume_inStep {p : PendingCall} {response : ResponseFrame} (h : Orderly d s) (hquiet : Quiet s)
    (hlast : s.asked.length = p.first + p.stage + 1) (hstage : p.stage < p.call.stages)
    (hearlier : ∀ k < p.stage, ∃ body, s.OwnResponse p.call p.first k body)
    (hrequest : s.asked[p.first + p.stage]? = some (p.call.request s.profile p.stage))
    (hanswer : s.answered[p.first + p.stage]? = some (p.call.request s.profile p.stage, response)) :
    InStep d (s.resume d p response) := by
  unfold resume
  split
  · exact finish_error_inStep h hquiet _
  · rename_i hstatus
    have hown : s.OwnResponse p.call p.first p.stage response.body := by
      obtain ⟨status, body⟩ := response
      obtain rfl : status = 0 := by simpa using hstatus
      exact ⟨hrequest, hanswer⟩
    have hupto : ∀ k < p.stage + 1, ∃ body, s.OwnResponse p.call p.first k body := by
      intro k hk
      rcases Nat.lt_succ_iff_lt_or_eq.1 hk with hlt | rfl
      · exact hearlier k hlt
      · exact ⟨_, hown⟩
    split
    · rename_i hmore
      exact ask_inStep h hquiet (by omega) hmore hupto
    · rename_i hend
      have hfinal : p.call.stages - 1 = p.stage := by omega
      refine finish_inStep h hquiet fun value hvalue => ⟨fun k hk => hupto k (by omega), response.body, ?_, hvalue⟩
      rw [hfinal]
      exact hown

/-- The client takes a byte. -/
theorem receive_inStep (h : InStep d s) {p : PendingCall} (hp : s.pending = some p) {b : UInt8} {rest : List UInt8}
    (hbytes : s.toClient = b :: rest) : InStep d (s.receive d p b rest) := by
  obtain ⟨hlast, hstage, hrequest, hearlier, hcases⟩ := h.waiting p hp
  rcases hcases with ⟨-, hempty, -⟩ | ⟨response, lost, hanswer, hlevel, hwrite, -⟩
  · rw [hbytes] at hempty
    cases hempty
  · have hsplit : p.received ++ (s.toClient ++ lost) = p.received ++ [b] ++ (rest ++ lost) := by
      rw [hbytes]
      simp
    rw [hsplit] at hwrite
    have horderly : Orderly d { s with toClient := rest } := ⟨h.orderly.own, h.orderly.answers, h.orderly.sent⟩
    unfold receive
    simp only
    by_cases hdone : rest ++ lost = []
    · -- the last byte
      obtain ⟨rfl, rfl⟩ := List.append_eq_nil_iff.1 hdone
      have hread : readResponse (p.received ++ [b]) = .ok (response, []) :=
        (response_exact _ _ _).2 ⟨_, hwrite, by simp⟩
      rw [hread]
      exact resume_inStep horderly (fun _ => ⟨rfl, fun _ => hlevel⟩) hlast hstage hearlier hrequest hanswer
    · obtain ⟨e, he⟩ := readResponse_part hwrite hdone
      rw [he]
      refine ⟨⟨h.orderly.own, h.orderly.answers, h.orderly.sent⟩, fun hnone => (by cases hnone), fun q hq => ?_⟩
      cases hq
      exact ⟨hlast, hstage, hrequest, hearlier, Or.inr ⟨response, lost, hanswer, hlevel, hwrite, hdone⟩⟩

/-- The server answers the request a call waits with. -/
theorem answer_inStep (h : InStep d s) {p : PendingCall} (hpending : s.pending = some p) (hreceived : p.received = [])
    (hempty : s.toClient = []) (hcount : s.answered.length = p.first + p.stage) {context : ServerContext}
    {response : ResponseFrame} {bytes : List UInt8} (hwrite : response.write = .ok bytes) :
    InStep d { s with
      context := context, toServer := [], toClient := s.toClient ++ bytes,
      answered := s.answered ++ [(p.call.request s.profile p.stage, response)] } := by
  obtain ⟨hlast, hstage, hrequest, hearlier, -⟩ := h.waiting p hpending
  have hmore : s.answered <+: s.answered ++ [(p.call.request s.profile p.stage, response)] := List.prefix_append _ _
  refine ⟨⟨h.orderly.own.mono rfl (List.prefix_refl _) hmore rfl, ?_, fun _ _ => ?_⟩, fun hnone => ?_, fun q hq => ?_⟩
  · simp only [List.length_append, List.length_singleton]
    omega
  · simp only [List.length_append, List.length_singleton]
    rw [List.drop_eq_nil_of_le (by omega)]
    rfl
  · rw [hpending] at hnone
    cases hnone
  · rw [hpending] at hq
    cases hq
    refine ⟨hlast, hstage, hrequest, fun k hk => ?_, Or.inr ⟨response, [], ?_, ?_, ?_, ?_⟩⟩
    · obtain ⟨body, hown⟩ := hearlier k hk
      exact ⟨body, hown.mono rfl (List.prefix_refl _) hmore⟩
    · simp only [← hcount, List.getElem?_concat_length]
    · simp only [List.length_append, List.length_singleton]
      omega
    · rw [hreceived, hempty, List.append_nil]
      exact hwrite
    · rw [(write_response_ok.1 hwrite).2, hempty]
      simp

/-- **The server takes a request**: it is the last one that was asked, and there is no other. -/
theorem serve_inStep (h : InStep d s) {now : Nat} {t : Link} (ht : s.serve d now = some t) : InStep d t := by
  unfold serve at ht
  split at ht
  · cases ht
  rename_i hlive
  simp only [Bool.not_eq_true, Bool.not_eq_false', Bool.and_eq_true] at hlive
  obtain ⟨hserving, hconnected⟩ := hlive
  have hsent := h.orderly.sent hserving hconnected
  -- where all requests are answered there is none to read
  have hnothing : s.answered.length = s.asked.length → False := by
    intro hlevel
    rw [hlevel, List.drop_length, writeAll, Except.ok.injEq] at hsent
    rw [← hsent] at ht
    cases ht
  cases hpending : s.pending with
  | none => exact absurd ((h.idle hpending hconnected).2 hserving) fun hlevel => hnothing hlevel
  | some p =>
    obtain ⟨hlast, hstage, hrequest, hearlier, hcases⟩ := h.waiting p hpending
    rcases hcases with ⟨hreceived, hempty, -, hlevel⟩ | ⟨response, lost, -, hlevel, -⟩
    · have hcount := hlevel hserving hconnected
      have hdrop : s.asked.drop s.answered.length = [p.call.request s.profile p.stage] := by
        rw [hcount, List.drop_eq_getElem_cons (by omega), List.drop_eq_nil_of_le (by omega)]
        obtain ⟨hlt, hget⟩ := List.getElem?_eq_some_iff.1 hrequest
        rw [hget]
      rw [hdrop] at hsent
      unfold writeAll at hsent
      split at hsent
      · cases hsent
      rename_i bytes hbytes
      simp only [writeAll, List.append_nil, Except.ok.injEq] at hsent
      have hread : readRequest s.toServer = .ok (p.call.request s.profile p.stage, []) :=
        (request_exact _ _ _).2 ⟨bytes, hbytes, by rw [List.append_nil, hsent]⟩
      rw [hread] at ht
      simp only at ht
      rw [ServerContext.serveClient_eq] at ht
      cases hwrite : (s.context.answer d.parse (p.call.request s.profile p.stage) now).2.write with
      | error e =>
        rw [hwrite] at ht
        cases ht
        refine ⟨⟨h.orderly.own, h.orderly.answers, fun hno => (by cases hno)⟩, fun hnone => ?_, fun q hq => ?_⟩
        · rw [hpending] at hnone
          cases hnone
        · rw [hpending] at hq
          cases hq
          exact ⟨hlast, hstage, hrequest, hearlier, Or.inl ⟨hreceived, hempty, Nat.le_of_eq hcount, fun hno => by cases hno⟩⟩
      | ok answer =>
        rw [hwrite] at ht
        cases ht
        exact answer_inStep h hpending hreceived hempty hcount hwrite
    · exact absurd hlevel hnothing

theorem stop_inStep (h : InStep d s) (sent : Nat) :
    InStep d { s with serving := false, toClient := s.toClient.take sent } := by
  refine ⟨⟨h.orderly.own, h.orderly.answers, fun hno => (by cases hno)⟩, fun hnone hconnected => ?_, fun p hp => ?_⟩
  · refine ⟨?_, fun hno => by cases hno⟩
    simp only
    rw [((h.idle hnone) hconnected).1, List.take_nil]
  · obtain ⟨hlast, hstage, hrequest, hearlier, hcases⟩ := h.waiting p hp
    refine ⟨hlast, hstage, hrequest, hearlier, ?_⟩
    rcases hcases with ⟨hreceived, hempty, hcount, -⟩ | ⟨response, lost, hanswer, hlevel, hwrite, hmore⟩
    · refine Or.inl ⟨hreceived, ?_, hcount, fun hno => by cases hno⟩
      simp only
      rw [hempty, List.take_nil]
    · have hsame : s.toClient.take sent ++ (s.toClient.drop sent ++ lost) = s.toClient ++ lost := by
        rw [← List.append_assoc, List.take_append_drop]
      refine Or.inr ⟨response, s.toClient.drop sent ++ lost, hanswer, hlevel, ?_, ?_⟩
      · rw [hsame]
        exact hwrite
      · rw [hsame]
        exact hmore

/-- **One step but a timeout keeps the two ends in step.** -/
theorem step_inStep (h : InStep d s) {l : LinkLabel} (hl : l ≠ .timeout) {t : Link} (ht : s.step d l = some t) :
    InStep d t := by
  cases l with
  | call call =>
    simp only [step] at ht
    split at ht
    · cases ht
    · rename_i hidle
      cases ht
      exact begin_inStep h hidle call
  | serve now => exact serve_inStep h ht
  | receive =>
    simp only [step] at ht
    split at ht
    · rename_i p b rest hp hbytes
      split at ht
      · cases ht
        exact receive_inStep h hp hbytes
      · cases ht
    · cases ht
  | timeout => exact absurd rfl hl
  | eof =>
    simp only [step] at ht
    split at ht
    · split at ht
      · rename_i hend
        cases ht
        refine finish_error_inStep h.orderly (fun _ => ⟨hend.1, fun hserving => ?_⟩) _
        rw [hend.2] at hserving
        cases hserving
      · cases ht
    · cases ht
  | stop sent =>
    cases ht
    exact stop_inStep h sent
  | reset =>
    have horderly : Orderly d { s with connected := false } :=
      ⟨h.orderly.own, h.orderly.answers, fun _ hno => by cases hno⟩
    have hquiet : Quiet { s with connected := false } := fun hno => by cases hno
    simp only [step] at ht
    split at ht
    · cases ht
      exact finish_error_inStep horderly hquiet _
    · rename_i hidle
      cases ht
      refine ⟨horderly, fun _ => hquiet, fun p hp => ?_⟩
      rw [hidle] at hp
      cases hp
  | others call =>
    cases ht
    refine ⟨⟨h.orderly.own, h.orderly.answers, h.orderly.sent⟩, h.idle, fun p hp => ?_⟩
    obtain ⟨hlast, hstage, hrequest, hearlier, hcases⟩ := h.waiting p hp
    exact ⟨hlast, hstage, hrequest, hearlier, hcases⟩

theorem connect_inStep (profile : PlayerProfile) (context : ServerContext) : InStep d (connect profile context) where
  orderly := ⟨fun r hr => (by cases hr), Nat.le_refl _, fun _ _ => rfl⟩
  idle := fun _ _ => ⟨rfl, fun _ => rfl⟩
  waiting := fun p hp => by cases hp

/-! ## Behind a timeout -/

/-- Where no call waits and none begins, nothing is returned. -/
theorem step_own_of_idle (hidle : s.pending = none) (hown : s.OwnAnswers d) {l : LinkLabel} (hl : l.isCall = false)
    {t : Link} (ht : s.step d l = some t) : t.pending = none ∧ t.OwnAnswers d := by
  have hsame : s.asked <+: s.asked ∧ s.answered <+: s.answered := ⟨List.prefix_refl _, List.prefix_refl _⟩
  cases l with
  | call call => cases hl
  | serve now =>
    simp only [step, serve] at ht
    split at ht
    · cases ht
    · split at ht
      · cases ht
      · cases ht
        exact ⟨hidle, hown.mono rfl hsame.1 hsame.2 rfl⟩
      · split at ht
        · cases ht
          exact ⟨hidle, hown.mono rfl hsame.1 hsame.2 rfl⟩
        · cases ht
          exact ⟨hidle, hown.mono rfl hsame.1 (List.prefix_append _ _) rfl⟩
  | receive | timeout | eof =>
    simp only [step, hidle] at ht
    cases ht
  | reset =>
    simp only [step, hidle] at ht
    cases ht
    exact ⟨rfl, hown.mono rfl hsame.1 hsame.2 rfl⟩
  | stop _ | others _ =>
    cases ht
    exact ⟨hidle, hown.mono rfl hsame.1 hsame.2 rfl⟩

/-- **In step as long as no call times out.** -/
theorem run_inStep {trace : List LinkLabel} (hnone : LinkLabel.timeout ∉ trace) (h : InStep d s) {t : Link}
    (hrun : run (step d) s trace = some t) : InStep d t := by
  induction trace generalizing s with
  | nil =>
    simp only [run, Option.some.injEq] at hrun
    exact hrun ▸ h
  | cons l trace ih =>
    obtain ⟨u, hu, hrest⟩ := run_cons hrun
    have hl : l ≠ .timeout := fun heq => hnone (heq ▸ List.mem_cons_self)
    exact ih (fun hlater => hnone (List.mem_cons_of_mem l hlater)) (step_inStep h hl hu) hrest

theorem run_own_of_idle {trace : List LinkLabel} (hno : ∀ l ∈ trace, l.isCall = false) (hidle : s.pending = none)
    (hown : s.OwnAnswers d) {t : Link} (hrun : run (step d) s trace = some t) : t.OwnAnswers d := by
  induction trace generalizing s with
  | nil =>
    simp only [run, Option.some.injEq] at hrun
    exact hrun ▸ hown
  | cons l trace ih =>
    obtain ⟨u, hu, hrest⟩ := run_cons hrun
    obtain ⟨hidle, hown⟩ := step_own_of_idle hidle hown (hno l List.mem_cons_self) hu
    exact ih (fun m hm => hno m (List.mem_cons_of_mem l hm)) hidle hown hrest

/-- A timeout returns an error and nothing else. -/
theorem timeout_own (hown : s.OwnAnswers d) {t : Link} (ht : s.step d .timeout = some t) :
    t.pending = none ∧ t.OwnAnswers d := by
  simp only [step] at ht
  split at ht
  · cases ht
    refine ⟨rfl, fun r hr value hvalue => ?_⟩
    rcases List.mem_append.1 hr with hr | hr
    · exact hown r hr value hvalue
    · obtain rfl := List.mem_singleton.1 hr
      cases hvalue
  · cases ht

end Link

/-- Two pings, and the second begins behind the first one's timeout. -/
def latePing : List LinkLabel :=
  [.call (.ping [1]), .timeout, .call (.ping [2]), .serve 0] ++ List.replicate 6 .receive

/-- **The late answer is the next call's**: the second ping returns what the first one sent, before the server has read
it. -/
theorem second_ping_returns_first_payload :
    ∃ s, run (Link.step ⟨fun _ => none, fun _ => ""⟩)
        (Link.connect ⟨"Player", "guest-machine", "PCL N Terracotta", some .guest⟩ hostAlone) latePing = some s ∧
      s.returned = [⟨.ping [1], 0, .error (.scaffolding (.io "Scaffolding response timed out"))⟩,
        ⟨.ping [2], 1, .ok (.payload [1])⟩] ∧
      s.answered = [(⟨"c:ping", [1]⟩, ⟨0, [1]⟩)] ∧ ¬ s.OwnAnswers ⟨fun _ => none, fun _ => ""⟩ := by
  obtain ⟨s, hrun, hreturned, hanswered⟩ : ∃ s, run (Link.step ⟨fun _ => none, fun _ => ""⟩)
      (Link.connect ⟨"Player", "guest-machine", "PCL N Terracotta", some .guest⟩ hostAlone) latePing = some s ∧
      s.returned = [⟨.ping [1], 0, .error (.scaffolding (.io "Scaffolding response timed out"))⟩,
        ⟨.ping [2], 1, .ok (.payload [1])⟩] ∧
      s.answered = [(⟨"c:ping", [1]⟩, ⟨0, [1]⟩)] := ⟨_, rfl, by decide, by decide⟩
  refine ⟨s, hrun, hreturned, hanswered, fun hown => ?_⟩
  obtain ⟨-, body, hresponse, -⟩ := hown ⟨.ping [2], 1, .ok (.payload [1])⟩ (by rw [hreturned]; simp) _ rfl
  have hsecond := hresponse.2
  rw [hanswered] at hsecond
  cases hsecond

/-- **Every call returns the server's answer to its own request**, in every run of calls, answers, partial reads, ends of
the connection and pings of others in which no call begins behind a timeout. -/
theorem calls_return_their_own_answers (d : Decoder) (profile : PlayerProfile) (context : ServerContext)
    {trace : List LinkLabel} (hunused : trace.Pairwise (fun l later => l = .timeout → later.isCall = false)) {s : Link}
    (hrun : run (Link.step d) (Link.connect profile context) trace = some s) : s.OwnAnswers d := by
  by_cases htimeout : LinkLabel.timeout ∈ trace
  · obtain ⟨before, behind, rfl, hfirst⟩ := List.eq_append_cons_of_mem htimeout
    obtain ⟨t, ht, hrest⟩ := run_append hrun
    obtain ⟨u, hu, hbehind⟩ := run_cons hrest
    have hown := (Link.run_inStep hfirst (Link.connect_inStep profile context) ht).orderly.own
    obtain ⟨hidle, hown⟩ := Link.timeout_own hown hu
    have hno : ∀ l ∈ behind, l.isCall = false := fun l hl =>
      (List.pairwise_cons.1 (List.pairwise_append.1 hunused).2.1).1 l hl rfl
    exact Link.run_own_of_idle hno hidle hown hbehind
  · exact (Link.run_inStep htimeout (Link.connect_inStep profile context) hrun).orderly.own

/-- A ping that is answered, and one that is not. -/
def lastPing : List LinkLabel :=
  [.call (.ping [1]), .serve 0] ++ List.replicate 6 .receive ++ [.call (.ping [2]), .timeout]

theorem ping_returns_its_payload :
    ∃ s, run (Link.step ⟨fun _ => none, fun _ => ""⟩)
        (Link.connect ⟨"Player", "guest-machine", "PCL N Terracotta", some .guest⟩ hostAlone) lastPing = some s ∧
      s.returned = [⟨.ping [1], 0, .ok (.payload [1])⟩,
        ⟨.ping [2], 1, .error (.scaffolding (.io "Scaffolding response timed out"))⟩] ∧
      s.OwnAnswers ⟨fun _ => none, fun _ => ""⟩ := by
  have hunused : lastPing.Pairwise (fun l later => l = .timeout → later.isCall = false) := by decide
  obtain ⟨s, hrun, hreturned⟩ : ∃ s, run (Link.step ⟨fun _ => none, fun _ => ""⟩)
      (Link.connect ⟨"Player", "guest-machine", "PCL N Terracotta", some .guest⟩ hostAlone) lastPing = some s ∧
      s.returned = [⟨.ping [1], 0, .ok (.payload [1])⟩,
        ⟨.ping [2], 1, .error (.scaffolding (.io "Scaffolding response timed out"))⟩] := ⟨_, rfl, by decide⟩
  exact ⟨s, hrun, hreturned, calls_return_their_own_answers _ _ _ hunused hrun⟩

end Terracotta
