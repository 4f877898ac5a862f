import Terracotta.Guests
import Terracotta.ScaffoldingFrames
/-!
# The requests of Scaffolding (`scaffolding/server.rs`)

`serve_client` reads a request, answers it and reads the next.  It looks for the type of a request and, in some of its
arms, for its body at the same time; what no arm takes is answered as an unknown request.  How `serde_json` reads a text
is a parameter; a value that nothing asks for may be anything.
-/
namespace Terracotta

open Json (Value streamFields readString)

/-! ## Profiles as JSON (`scaffolding/model.rs`) -/

def PlayerKind.name : PlayerKind → String
  | .host => "HOST"
  | .guest => "GUEST"

def PlayerProfile.toValue (p : PlayerProfile) : Value :=
  .obj ([("name", .str p.name), ("machine_id", .str p.machineId), ("vendor", .str p.vendor)] ++
    match p.kind with
    | none => []
    | some kind => [("kind", .str kind.name)])

/-- A variant without data: its name, or an object with its name and `null`. -/
def PlayerKind.fromValue : Value → Option PlayerKind
  | .str name | .obj [(name, .null)] =>
    if name = "HOST" then some .host else if name = "GUEST" then some .guest else none
  | _ => none

def PlayerKind.read : Option Value → Option (Option PlayerKind)
  | none | some .null => some none
  | some v => (PlayerKind.fromValue v).map some

def PlayerProfile.fromValue (v : Value) : Option PlayerProfile :=
  match streamFields ["name", "machine_id", "vendor", "kind"] v with
  | some [name, machineId, vendor, kind] => do
    return { name := ← readString name, machineId := ← readString machineId, vendor := ← readString vendor,
             kind := ← PlayerKind.read kind }
  | _ => none

/-- `serde_json::to_vec` of a list of profiles, in which there are no doubles. -/
def writeProfiles (profiles : List PlayerProfile) : List UInt8 :=
  Text.utf8 (Json.write (fun _ => []) (.arr (profiles.map PlayerProfile.toValue)))

/-! ## Protocols -/

/-- `SUPPORTED_PROTOCOLS`. -/
def supportedProtocols : List String :=
  ["c:ping", "c:protocols", "c:server_port", "c:player_ping", "c:player_profiles_list"]

/-- `INVALID_REQUEST_STATUS`. -/
def invalidRequestStatus : UInt8 := 32

/-- `UNKNOWN_REQUEST_STATUS`. -/
def unknownRequestStatus : UInt8 := 255

/-- `split('\0')` without the empty parts. -/
def splitProtocols (text : String) : List String :=
  ((text.toList.splitOn '\x00').map String.ofList).filter (fun value => !value.toList.isEmpty)

/-- What a body offers; `unwrap_or_default` has nothing for what is no text. -/
def offered (body : List UInt8) : List String := splitProtocols ((Text.fromUtf8 body).getD "")

/-- `join("\0")`. -/
def joinProtocols (protocols : List String) : List Char := ['\x00'].intercalate (protocols.map String.toList)

theorem supportedProtocols_plain : ∀ protocol ∈ supportedProtocols, '\x00' ∉ protocol.toList ∧ protocol.toList ≠ [] := by
  decide

/-- **A list of protocols is read as it was joined.** -/
theorem splitProtocols_join {protocols : List String} (h : protocols ⊆ supportedProtocols) :
    splitProtocols (String.ofList (joinProtocols protocols)) = protocols := by
  have hplain : ∀ l ∈ protocols.map String.toList, '\x00' ∉ l := by
    intro l hl
    obtain ⟨protocol, hp, rfl⟩ := List.mem_map.1 hl
    exact (supportedProtocols_plain protocol (h hp)).1
  unfold splitProtocols joinProtocols
  rw [String.toList_ofList]
  by_cases hnil : protocols = []
  · subst hnil
    rfl
  · rw [List.splitOn_intercalate _ hplain (by simpa using hnil), List.map_map]
    have hid : protocols.map (String.ofList ∘ String.toList) = protocols := by simp
    rw [hid, List.filter_eq_self]
    intro protocol hp
    simpa using (supportedProtocols_plain protocol (h hp)).2

theorem offered_utf8 (s : List Char) : offered (Text.utf8 s) = splitProtocols (String.ofList s) := by
  have htext : Text.fromUtf8 (Text.utf8 s) = some (String.ofList s) :=
    Text.fromUtf8_eq_some.2 (by rw [String.toList_ofList])
  unfold offered
  rw [htext]
  rfl

theorem utf8Len_joinProtocols : ∀ protocols : List String,
    Text.utf8Len (joinProtocols protocols) ≤ (protocols.map (fun p => Text.utf8Len p.toList + 1)).sum
  | [] => Nat.zero_le _
  | [p] => by simp [joinProtocols]
  | p :: q :: protocols => by
    have ih := utf8Len_joinProtocols (q :: protocols)
    have hnul : Char.utf8Size '\x00' = 1 := by decide
    have hcons : joinProtocols (p :: q :: protocols) = p.toList ++ '\x00' :: joinProtocols (q :: protocols) := by
      simp [joinProtocols]
    rw [hcons, Text.utf8Len_append, Text.utf8Len_cons, hnul, List.map_cons, List.sum_cons]
    omega

/-- The answer to an offer is short. -/
theorem length_joinProtocols {protocols : List String} (h : protocols.Sublist supportedProtocols) :
    (Text.utf8 (joinProtocols protocols)).length ≤ maxBodyLength := by
  have hall : (supportedProtocols.map (fun p => Text.utf8Len p.toList + 1)).sum ≤ maxBodyLength := by decide
  have hsum := (h.map (fun p => Text.utf8Len p.toList + 1)).sum_le_sum (fun _ _ => Nat.zero_le _)
  rw [Text.length_utf8]
  exact Nat.le_trans (utf8Len_joinProtocols protocols) (Nat.le_trans hsum hall)

/-! ## Answers -/

namespace ServerContext

variable (parse : List UInt8 → Option Value)

/-- The response of one turn of `serve_client`, and the context behind it. -/
def answer (c : ServerContext) (request : RequestFrame) (now : Nat) : ServerContext × ResponseFrame :=
  if request.requestType = "c:ping" ∧ request.body.length < 32 then (c, ⟨0, request.body⟩)
  else if request.requestType = "c:ping" then (c, ⟨invalidRequestStatus, []⟩)
  else if request.requestType = "c:protocols" then
    let offer := offered request.body
    let protocols := supportedProtocols.filter (fun protocol => offer.isEmpty || offer.contains protocol)
    (c, ⟨0, Text.utf8 (joinProtocols protocols)⟩)
  else if request.requestType = "c:server_port" ∧ request.body = [] then
    (c, ⟨0, [UInt8.ofNat (c.minecraftPort / 256), UInt8.ofNat c.minecraftPort]⟩)
  else if request.requestType = "c:player_ping" then
    match (parse request.body).bind PlayerProfile.fromValue with
    | some profile => match c.recordGuest profile now with
      | .ok c => (c, ⟨0, []⟩)
      | .error _ => (c, ⟨invalidRequestStatus, []⟩)
    | none => (c, ⟨invalidRequestStatus, []⟩)
  else if request.requestType = "c:player_profiles_list" ∧ request.body = [] then
    (c, ⟨0, writeProfiles c.playerProfiles⟩)
  else (c, ⟨unknownRequestStatus, Text.utf8 "unsupported Scaffolding request".toList⟩)

/-- One turn of the loop of `serve_client`: what it writes, or the error that ends the connection. -/
def serveClient (c : ServerContext) (request : RequestFrame) (now : Nat) :
    ServerContext × Except ScaffoldingError (List UInt8) :=
  let (c, response) := c.answer parse request now
  (c, response.write)

/-! ## The arms -/

variable {parse} {c : ServerContext} {request : RequestFrame} {now : Nat}

theorem answer_ping (h : request.requestType = "c:ping") : c.answer parse request now =
    (c, if request.body.length < 32 then ⟨0, request.body⟩ else ⟨invalidRequestStatus, []⟩) := by
  unfold answer
  by_cases hlen : request.body.length < 32
  · rw [if_pos ⟨h, hlen⟩, if_pos hlen]
  · rw [if_neg (fun hboth => hlen hboth.2), if_pos h, if_neg hlen]

theorem answer_protocols (h : request.requestType = "c:protocols") : c.answer parse request now =
    (c, ⟨0, Text.utf8 (joinProtocols (supportedProtocols.filter (fun protocol =>
      (offered request.body).isEmpty || (offered request.body).contains protocol)))⟩) := by
  unfold answer
  simp only [h, String.reduceEq, false_and, if_false, if_true]

theorem answer_serverPort (h : request.requestType = "c:server_port") : c.answer parse request now =
    (c, if request.body = [] then ⟨0, [UInt8.ofNat (c.minecraftPort / 256), UInt8.ofNat c.minecraftPort]⟩
      else ⟨unknownRequestStatus, Text.utf8 "unsupported Scaffolding request".toList⟩) := by
  unfold answer
  simp only [h, String.reduceEq, false_and, true_and, if_false]
  split <;> rfl

theorem answer_playerPing (h : request.requestType = "c:player_ping") : c.answer parse request now =
    match (parse request.body).bind PlayerProfile.fromValue with
    | some profile => match c.recordGuest profile now with
      | .ok c => (c, ⟨0, []⟩)
      | .error _ => (c, ⟨invalidRequestStatus, []⟩)
    | none => (c, ⟨invalidRequestStatus, []⟩) := by
  unfold answer
  simp only [h, String.reduceEq, false_and, if_false, if_true]

theorem answer_list (h : request.requestType = "c:player_profiles_list") : c.answer parse request now =
    (c, if request.body = [] then ⟨0, writeProfiles c.playerProfiles⟩
      else ⟨unknownRequestStatus, Text.utf8 "unsupported Scaffolding request".toList⟩) := by
  unfold answer
  simp only [h, String.reduceEq, false_and, true_and, if_false]
  split <;> rfl

theorem answer_unknown (h : request.requestType ∉ supportedProtocols) : c.answer parse request now =
    (c, ⟨unknownRequestStatus, Text.utf8 "unsupported Scaffolding request".toList⟩) := by
  simp only [supportedProtocols, List.mem_cons, List.not_mem_nil, or_false, not_or] at h
  obtain ⟨hping, hprotocols, hport, hplayer, hlist⟩ := h
  unfold answer
  rw [if_neg (fun hboth => hping hboth.1), if_neg hping, if_neg hprotocols, if_neg (fun hboth => hport hboth.1),
    if_neg hplayer, if_neg (fun hboth => hlist hboth.1)]

/-- One of the five types, or none of them. -/
theorem type_cases (requestType : String) : requestType = "c:ping" ∨ requestType = "c:protocols" ∨
    requestType = "c:server_port" ∨ requestType = "c:player_ping" ∨ requestType = "c:player_profiles_list" ∨
    requestType ∉ supportedProtocols := by
  simp only [supportedProtocols, List.mem_cons, List.not_mem_nil, or_false]
  tauto

/-! ## What a response is -/

theorem serveClient_eq : c.serveClient parse request now =
    ((c.answer parse request now).1, (c.answer parse request now).2.write) := rfl

/-- **Nothing is written but the response**, and it is if it fits a frame. -/
theorem serveClient_ok {response : ResponseFrame} :
    (∃ bytes, (c.serveClient parse request now).2 = .ok bytes ∧ readResponse bytes = .ok (response, [])) ↔
      response = (c.answer parse request now).2 ∧ response.body.length ≤ maxBodyLength := by
  rw [serveClient_eq]
  constructor
  · rintro ⟨bytes, hwrite, hread⟩
    have hagain : readResponse (bytes ++ []) = .ok ((c.answer parse request now).2, []) :=
      (response_exact _ _ _).2 ⟨bytes, hwrite, rfl⟩
    rw [List.append_nil, hread] at hagain
    cases hagain
    exact ⟨rfl, (write_response_ok.1 hwrite).1⟩
  · rintro ⟨rfl, hlength⟩
    obtain ⟨bytes, hwrite⟩ : ∃ bytes, (c.answer parse request now).2.write = .ok bytes :=
      ⟨_, write_response_ok.2 ⟨hlength, rfl⟩⟩
    have hread : readResponse (bytes ++ []) = .ok ((c.answer parse request now).2, []) :=
      (response_exact _ _ _).2 ⟨bytes, hwrite, rfl⟩
    rw [List.append_nil] at hread
    exact ⟨bytes, hwrite, hread⟩

/-- **An answer fits a frame**, if the list of players does. -/
theorem answer_fits (hfits : (writeProfiles c.playerProfiles).length ≤ maxBodyLength) :
    (c.answer parse request now).2.body.length ≤ maxBodyLength := by
  have hunsupported : (Text.utf8 "unsupported Scaffolding request".toList).length ≤ maxBodyLength := by decide
  rcases type_cases request.requestType with h | h | h | h | h | h
  · rw [answer_ping h]
    split
    · rename_i hlen
      exact Nat.le_trans (Nat.le_of_lt hlen) (by decide)
    · exact Nat.zero_le _
  · rw [answer_protocols h]
    exact length_joinProtocols List.filter_sublist
  · rw [answer_serverPort h]
    split
    · exact Nat.le_of_ble_eq_true rfl
    · exact hunsupported
  · rw [answer_playerPing h]
    split
    · split <;> exact Nat.zero_le _
    · exact Nat.zero_le _
  · rw [answer_list h]
    split
    · exact hfits
    · exact hunsupported
  · rw [answer_unknown h]
    exact hunsupported

/-! ## The documented table -/

/-- **A body its row of the table does not have**: a long ping, a list of protocols that is no text, a body where none
belongs, and a profile that is none, is invalid or is the host's. -/
def Violates (parse : List UInt8 → Option Value) (c : ServerContext) (request : RequestFrame) : Prop :=
  (request.requestType = "c:ping" ∧ 32 ≤ request.body.length) ∨
  (request.requestType = "c:protocols" ∧ Text.fromUtf8 request.body = none) ∨
  (request.requestType = "c:server_port" ∧ request.body ≠ []) ∨
  (request.requestType = "c:player_profiles_list" ∧ request.body ≠ []) ∨
  (request.requestType = "c:player_ping" ∧ ∀ profile, (parse request.body).bind PlayerProfile.fromValue = some profile →
    profile.validate = false ∨ profile.machineId = c.hostMachineId)

/-- The status of the table. -/
structure Documented (parse : List UInt8 → Option Value) (c : ServerContext) (request : RequestFrame) (status : UInt8) :
    Prop where
  unknown : status = 255 ↔ request.requestType ∉ supportedProtocols
  invalid : status = 32 ↔ request.requestType ∈ supportedProtocols ∧ Violates parse c request
  success : status = 0 ↔ request.requestType ∈ supportedProtocols ∧ ¬ Violates parse c request

/-- **What the table has `serve_client` do with a request**: write one response, with the status of the table, and answer
an offer with nothing that was not offered. -/
def Conforms (parse : List UInt8 → Option Value) (c : ServerContext) (request : RequestFrame) (now : Nat) : Prop :=
  ∃ bytes response, (c.serveClient parse request now).2 = .ok bytes ∧ readResponse bytes = .ok (response, []) ∧
    Documented parse c request response.status ∧
    (request.requestType = "c:protocols" → response.status = 0 → offered request.body ≠ [] →
      offered response.body ⊆ offered request.body)

theorem documented_of_supported {status : UInt8} (h : request.requestType ∈ supportedProtocols) :
    Documented parse c request status ↔
      (status = 32 ∧ Violates parse c request) ∨ (status = 0 ∧ ¬ Violates parse c request) := by
  constructor
  · rintro ⟨-, hinvalid, hsuccess⟩
    by_cases hv : Violates parse c request
    · exact Or.inl ⟨hinvalid.2 ⟨h, hv⟩, hv⟩
    · exact Or.inr ⟨hsuccess.2 ⟨h, hv⟩, hv⟩
  · rintro (⟨rfl, hv⟩ | ⟨rfl, hv⟩)
    · exact ⟨by simp [h], by simp [h, hv], by simp [hv]⟩
    · exact ⟨by simp [h], by simp [hv], by simp [h, hv]⟩

theorem documented_of_unknown {status : UInt8} (h : request.requestType ∉ supportedProtocols) :
    Documented parse c request status ↔ status = 255 := by
  constructor
  · exact fun hd => hd.unknown.2 h
  · rintro rfl
    exact ⟨by simp [h], by simp [h], by simp [h]⟩

/-- A request whose body no arm of its type reads: one where none belongs, and an offer that is no text. -/
def Unread (request : RequestFrame) : Prop :=
  ((request.requestType = "c:server_port" ∨ request.requestType = "c:player_profiles_list") ∧ request.body ≠ []) ∨
  (request.requestType = "c:protocols" ∧ Text.fromUtf8 request.body = none)

/-- **The statuses are the table's but for unread bodies.** -/
theorem documented_answer_iff : Documented parse c request (c.answer parse request now).2.status ↔ ¬ Unread request := by
  rcases type_cases request.requestType with h | h | h | h | h | h
  · -- `c:ping`
    rw [documented_of_supported (by simp [h, supportedProtocols]), answer_ping h]
    simp only [Violates, Unread, h, String.reduceEq, true_and, false_and, or_false, not_false_eq_true, iff_true]
    split
    · exact Or.inr ⟨rfl, by omega⟩
    · exact Or.inl ⟨rfl, by omega⟩
  · -- `c:protocols`
    rw [documented_of_supported (by simp [h, supportedProtocols]), answer_protocols h]
    simp [Violates, Unread, h]
  · -- `c:server_port`
    rw [documented_of_supported (by simp [h, supportedProtocols]), answer_serverPort h]
    by_cases hbody : request.body = []
    · simp [Violates, Unread, h, hbody]
    · simp [Violates, Unread, h, hbody, unknownRequestStatus]
  · -- `c:player_ping`
    rw [documented_of_supported (by simp [h, supportedProtocols]), answer_playerPing h]
    simp only [Violates, Unread, h, String.reduceEq, true_and, false_and, false_or, or_false, not_false_eq_true, iff_true]
    cases hread : (parse request.body).bind PlayerProfile.fromValue with
    | none => exact Or.inl ⟨rfl, fun profile hp => by cases hp⟩
    | some profile =>
      simp only [Option.some.injEq, forall_eq']
      cases hrecord : c.recordGuest profile now with
      | ok c' =>
        refine Or.inr ⟨rfl, fun hrefused => ?_⟩
        obtain ⟨e, he⟩ := recordGuest_refused.2 hrefused
        rw [hrecord] at he
        cases he
      | error e => exact Or.inl ⟨rfl, recordGuest_refused.1 ⟨e, hrecord⟩⟩
  · -- `c:player_profiles_list`
    rw [documented_of_supported (by simp [h, supportedProtocols]), answer_list h]
    by_cases hbody : request.body = []
    · simp [Violates, Unread, h, hbody]
    · simp [Violates, Unread, h, hbody, unknownRequestStatus]
  · rw [documented_of_unknown h, answer_unknown h]
    simp only [supportedProtocols, List.mem_cons, List.not_mem_nil, or_false, not_or] at h
    simp [Unread, h, unknownRequestStatus]

/-- **An offer is answered with what was offered.** -/
theorem offered_answer (h : request.requestType = "c:protocols") (hne : offered request.body ≠ []) :
    offered (c.answer parse request now).2.body ⊆ offered request.body := by
  have hempty : (offered request.body).isEmpty = false := by simpa using hne
  rw [answer_protocols h]
  simp only
  rw [offered_utf8, splitProtocols_join (fun protocol hp => (List.mem_filter.1 hp).1)]
  intro protocol hp
  have hin := (List.mem_filter.1 hp).2
  rw [hempty, Bool.false_or] at hin
  simpa using hin

end ServerContext

/-- The roster of a host alone. -/
def hostAlone : ServerContext :=
  ⟨25565, "host-machine", [("host-machine", ⟨⟨"Host", "host-machine", "PCL N Terracotta", some .host⟩, 0⟩)]⟩

theorem hostAlone_fits : (writeProfiles hostAlone.playerProfiles).length ≤ maxBodyLength := by decide

/-- A byte behind a request for the port, and an offer that is no text: the one is called unknown, and the other is taken
for an offer of everything. -/
theorem bodies_are_not_read :
    (writeProfiles hostAlone.playerProfiles).length ≤ maxBodyLength ∧
    (hostAlone.answer (fun _ => none) ⟨"c:server_port", [0]⟩ 0).2.status = 255 ∧
    ¬ hostAlone.Conforms (fun _ => none) ⟨"c:server_port", [0]⟩ 0 ∧
    (hostAlone.answer (fun _ => none) ⟨"c:protocols", [255]⟩ 0).2.status = 0 ∧
    ¬ hostAlone.Conforms (fun _ => none) ⟨"c:protocols", [255]⟩ 0 := by
  have hno : ∀ request : RequestFrame, ServerContext.Unread request → ¬ hostAlone.Conforms (fun _ => none) request 0 := by
    rintro request hunread ⟨bytes, response, hwrite, hread, hdocumented, -⟩
    obtain ⟨rfl, -⟩ := ServerContext.serveClient_ok.1 ⟨bytes, hwrite, hread⟩
    exact ServerContext.documented_answer_iff.1 hdocumented hunread
  refine ⟨hostAlone_fits, by decide, hno _ (Or.inl ⟨Or.inl rfl, by simp⟩), by decide, hno _ (Or.inr ⟨rfl, by decide⟩)⟩

/-- **Where `serve_client` keeps to its table**: it writes one response whatever is asked, and its status is the documented
one exactly if the request has no body where none belongs and no offer that is not a text. -/
theorem requests_answered_by_table_iff (parse : List UInt8 → Option Value) (c : ServerContext)
    (hfits : (writeProfiles c.playerProfiles).length ≤ maxBodyLength) (request : RequestFrame) (now : Nat) :
    c.Conforms parse request now ↔
      ¬ (((request.requestType = "c:server_port" ∨ request.requestType = "c:player_profiles_list") ∧ request.body ≠ []) ∨
        (request.requestType = "c:protocols" ∧ Text.fromUtf8 request.body = none)) := by
  have hstatus : ServerContext.Documented parse c request (c.answer parse request now).2.status ↔ ¬ _ :=
    ServerContext.documented_answer_iff
  refine Iff.trans ?_ hstatus
  constructor
  · rintro ⟨bytes, response, hwrite, hread, hdocumented, -⟩
    obtain ⟨rfl, -⟩ := ServerContext.serveClient_ok.1 ⟨bytes, hwrite, hread⟩
    exact hdocumented
  · intro hdocumented
    have hanswer : (c.answer parse request now).2.body.length ≤ maxBodyLength := ServerContext.answer_fits hfits
    obtain ⟨bytes, hwrite, hread⟩ := ServerContext.serveClient_ok.2 ⟨rfl, hanswer⟩
    exact ⟨bytes, _, hwrite, hread, hdocumented, fun htype _ hne => ServerContext.offered_answer htype hne⟩

theorem port_request_is_answered_by_table : hostAlone.Conforms (fun _ => none) ⟨"c:server_port", []⟩ 0 :=
  (requests_answered_by_table_iff _ hostAlone hostAlone_fits ⟨"c:server_port", []⟩ 0).2 (by simp)

end Terracotta
