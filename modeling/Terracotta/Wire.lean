import Terracotta.Snapshot
import Terracotta.Contracts
/-!
# The wire between the Helper and the plugin

What the Helper's serde attributes write of a `RoomSnapshot` or a `NetworkStatus`, and what the plugin's two reading
paths make of it: `HelperIpcClient.SendAsync` reads a response with its own `JsonOptions`, and
`TerracottaController.OnHelperPushEvent` reads a pushed envelope with no options.  The Helper writes camel-case keys,
so the second path finds none of them.
-/
namespace Terracotta

open Json (Options Value ofOption ofF64 toNullable toStr toInt32 toList toMembers toNullable_str toNullable_f64 lower
  camelCase)

/-! ## What the Helper writes -/

/-- `#[serde(rename_all = "camelCase")]` on `RoomState`. -/
def RoomState.toValue : RoomState → Value
  | .idle => .str "idle"
  | .creating => .str "creating"
  | .joining => .str "joining"
  | .connected => .str "connected"
  | .reconnecting => .str "reconnecting"
  | .leaving => .str "leaving"
  | .faulted => .str "faulted"
  | .diagnosing => .str "diagnosing"

def RoomRole.toValue : RoomRole → Value
  | .none => .str "none"
  | .host => .str "host"
  | .member => .str "member"

def ConnectionMode.toValue : ConnectionMode → Value
  | .unknown => .str "unknown"
  | .direct => .str "direct"
  | .relay => .str "relay"

def ofU32 (n : UInt32) : Value := .int n.toNat

def RoomMember.toValue (m : RoomMember) : Value :=
  .obj [("id", .str m.id), ("displayName", .str m.displayName), ("connectionMode", m.connectionMode.toValue),
    ("roundTripTimeMilliseconds", ofOption ofU32 m.roundTripTimeMilliseconds),
    ("packetLossPercent", ofOption ofF64 m.packetLossPercent)]

def NetworkStatus.toValue (n : NetworkStatus) : Value :=
  .obj [("natType", ofOption .str n.natType), ("connectionMode", n.connectionMode.toValue),
    ("roundTripTimeMilliseconds", ofOption ofU32 n.roundTripTimeMilliseconds),
    ("packetLossPercent", ofOption ofF64 n.packetLossPercent), ("relayNode", ofOption .str n.relayNode),
    ("isHealthy", .bool n.isHealthy)]

def RoomSnapshot.toValue (s : RoomSnapshot) : Value :=
  .obj [("state", s.state.toValue), ("role", s.role.toValue), ("roomCode", ofOption .str s.roomCode),
    ("localAddress", ofOption .str s.localAddress), ("gameSessionId", ofOption .str s.gameSessionId),
    ("network", ofOption NetworkStatus.toValue s.network), ("members", .arr (s.members.map RoomMember.toValue)),
    ("errorCode", ofOption .str s.errorCode), ("errorMessage", ofOption .str s.errorMessage)]

def RoomEvent.payload : RoomEvent → Value
  | .peerJoined m | .peerUpdated m => .obj [("member", m.toValue)]
  | .peerLeft id => .obj [("id", .str id)]
  | .networkUpdated n => n.toValue
  | .stateChanged s => s.toValue

/-- `Envelope` of the Helper and `IpcEnvelope` of the plugin. -/
structure Envelope where
  protocol : Nat
  id : String
  messageType : String
  payload : Value

def protocolVersion : Nat := 1

def Envelope.response (id messageType : String) (payload : Value) : Envelope :=
  ⟨protocolVersion, id, messageType, payload⟩

/-- The envelope `session::write_event` writes for the `sequence`-th event. -/
def writeEvent (sequence : Nat) (event : RoomEvent) : Envelope :=
  ⟨protocolVersion, "evt-" ++ toString sequence, event.messageType, event.payload⟩

/-! ## What the plugin reads -/

/-- The snapshot `HelperIpcClient.SendAsync` reads from a response, with its `JsonOptions`; `none` is a
`JsonException`. -/
def responseSnapshot (envelope : Envelope) : Option TerracottaRoomSnapshot :=
  TerracottaRoomSnapshot.read Options.web envelope.payload

def responseNetwork (envelope : Envelope) : Option TerracottaNetworkStatus :=
  TerracottaNetworkStatus.read Options.web envelope.payload

/-- The snapshot `TerracottaController.OnHelperPushEvent` reads: it passes `ReadPayload` no options. -/
def pushSnapshot (envelope : Envelope) : Option TerracottaRoomSnapshot :=
  TerracottaRoomSnapshot.read Options.default envelope.payload

def pushNetwork (envelope : Envelope) : Option TerracottaNetworkStatus :=
  TerracottaNetworkStatus.read Options.default envelope.payload

/-! ## A response says what the Helper wrote

`toContract` is what a reader of the wire should end with: the same fields under the contract's types.  A `u32` of at
least 2^31 does not fit the contract's `int`. -/

def ConnectionMode.toContract : ConnectionMode → TerracottaConnectionMode
  | .unknown => .unknown
  | .direct => .direct
  | .relay => .relay

def RoomRole.toContract : RoomRole → TerracottaRoomRole
  | .none => .none
  | .host => .host
  | .member => .member

def RoomState.toContract : RoomState → TerracottaRoomState
  | .idle => .idle
  | .creating => .creating
  | .joining => .joining
  | .connected => .connected
  | .reconnecting => .reconnecting
  | .leaving => .leaving
  | .faulted => .faulted
  | .diagnosing => .diagnosing

def contractRtt (rtt : Option UInt32) : Option Int := rtt.map (fun r => (r.toNat : Int))

def fitsInt32 (rtt : Option UInt32) : Bool := rtt.all (fun r => decide (r.toNat < 2147483648))

def NetworkStatus.toContract (n : NetworkStatus) : TerracottaNetworkStatus :=
  { natType := n.natType
    connectionMode := n.connectionMode.toContract
    roundTripTimeMilliseconds := contractRtt n.roundTripTimeMilliseconds
    packetLossPercent := n.packetLossPercent.filter F64.isFinite
    relayNode := n.relayNode
    isHealthy := n.isHealthy }

def RoomMember.toContract (m : RoomMember) : TerracottaRoomMember :=
  { id := some m.id
    displayName := some m.displayName
    connectionMode := m.connectionMode.toContract
    roundTripTimeMilliseconds := contractRtt m.roundTripTimeMilliseconds
    packetLossPercent := m.packetLossPercent.filter F64.isFinite }

def RoomSnapshot.toContract (s : RoomSnapshot) : TerracottaRoomSnapshot :=
  { state := s.state.toContract
    role := s.role.toContract
    roomCode := s.roomCode
    localAddress := s.localAddress
    gameSessionId := s.gameSessionId
    network := s.network.map NetworkStatus.toContract
    members := some (s.members.map RoomMember.toContract)
    errorCode := s.errorCode
    errorMessage := s.errorMessage }

def RoomSnapshot.fits (s : RoomSnapshot) : Bool :=
  s.network.all (fun n => fitsInt32 n.roundTripTimeMilliseconds) &&
    s.members.all (fun m => fitsInt32 m.roundTripTimeMilliseconds)

theorem fitsInt32_iff (rtt : Option UInt32) : fitsInt32 rtt = true ↔ ∀ r ∈ rtt, r.toNat < 2147483648 := by
  cases rtt <;> simp [fitsInt32]

theorem RoomSnapshot.fits_iff (s : RoomSnapshot) : s.fits = true ↔
    (∀ n ∈ s.network, ∀ r ∈ n.roundTripTimeMilliseconds, r.toNat < 2147483648) ∧
      ∀ m ∈ s.members, ∀ r ∈ m.roundTripTimeMilliseconds, r.toNat < 2147483648 := by
  simp only [RoomSnapshot.fits, Bool.and_eq_true, List.all_eq_true, fitsInt32_iff]
  refine and_congr_left fun _ => ?_
  cases s.network <;> simp [fitsInt32_iff]

theorem toNullable_u32 (x : Option UInt32) :
    toNullable toInt32 (ofOption ofU32 x) = if fitsInt32 x then some (contractRtt x) else none := by
  cases x with
  | none => rfl
  | some r =>
    have h0 : (-2147483648 : Int) ≤ r.toNat := by omega
    simp only [ofOption, ofU32, toNullable, toInt32, fitsInt32, contractRtt, h0, true_and, Option.all_some,
      Option.map_some, decide_eq_true_eq]
    by_cases h : r.toNat < 2147483648
    · have : (r.toNat : Int) < 2147483648 := by omega
      simp [h, this]
    · have : ¬ (r.toNat : Int) < 2147483648 := by omega
      simp [h, this]

theorem ConnectionMode.read_web (m : ConnectionMode) :
    TerracottaConnectionMode.read Options.web m.toValue = some m.toContract := by
  cases m <;> decide

theorem RoomState.read_web (x : RoomState) :
    Options.web.enum TerracottaRoomState.byName TerracottaRoomState.byNumber x.toValue = some x.toContract := by
  cases x <;> decide

theorem RoomRole.read_web (x : RoomRole) :
    Options.web.enum TerracottaRoomRole.byName TerracottaRoomRole.byNumber x.toValue = some x.toContract := by
  cases x <;> decide

theorem NetworkStatus.read_web (n : NetworkStatus) : TerracottaNetworkStatus.read Options.web n.toValue =
    if fitsInt32 n.roundTripTimeMilliseconds then some n.toContract else none := by
  simp only [TerracottaNetworkStatus.read, NetworkStatus.toValue, toMembers, Option.bind_eq_bind, Option.bind_some]
  simp [Options.param, Options.find, Options.web_matches, lower, camelCase, toNullable_str, toNullable_f64,
    toNullable_u32, ConnectionMode.read_web]
  split <;> rfl

theorem RoomMember.read_web (m : RoomMember) : TerracottaRoomMember.read Options.web m.toValue =
    if fitsInt32 m.roundTripTimeMilliseconds then some m.toContract else none := by
  have hs : ∀ s : String, toNullable toStr (Value.str s) = some (some s) := fun _ => rfl
  simp only [TerracottaRoomMember.read, RoomMember.toValue, toMembers, Option.bind_eq_bind, Option.bind_some]
  simp [Options.param, Options.find, Options.web_matches, lower, camelCase, hs, toNullable_f64, toNullable_u32,
    ConnectionMode.read_web]
  split <;> rfl

theorem members_read_web : ∀ (ms : List RoomMember),
    toList (TerracottaRoomMember.read Options.web) (.arr (ms.map RoomMember.toValue)) =
      if ms.all (fun m => fitsInt32 m.roundTripTimeMilliseconds) then some (ms.map RoomMember.toContract) else none
  | [] => rfl
  | m :: ms => by
    have ih := members_read_web ms
    simp only [toList] at ih
    simp only [toList, List.map_cons, List.mapM_cons, RoomMember.read_web, ih, List.all_cons]
    cases fitsInt32 m.roundTripTimeMilliseconds <;>
      cases ms.all (fun m => fitsInt32 m.roundTripTimeMilliseconds) <;> rfl

theorem network_read_web (n : Option NetworkStatus) :
    toNullable (TerracottaNetworkStatus.read Options.web) (ofOption NetworkStatus.toValue n) =
      if n.all (fun n => fitsInt32 n.roundTripTimeMilliseconds) then some (n.map NetworkStatus.toContract)
      else none := by
  cases n with
  | none => rfl
  | some n =>
    show (TerracottaNetworkStatus.read Options.web n.toValue).map some = _
    rw [NetworkStatus.read_web]
    cases h : fitsInt32 n.roundTripTimeMilliseconds <;> simp [h]

/-- **A response is read back field by field**, unless a round-trip time overflows the contract's `int`. -/
theorem RoomSnapshot.read_web (s : RoomSnapshot) : TerracottaRoomSnapshot.read Options.web s.toValue =
    if s.fits then some s.toContract else none := by
  have hmem : toNullable (toList (TerracottaRoomMember.read Options.web)) (.arr (s.members.map RoomMember.toValue)) =
      (toList (TerracottaRoomMember.read Options.web) (.arr (s.members.map RoomMember.toValue))).map some := rfl
  simp only [TerracottaRoomSnapshot.read, RoomSnapshot.toValue, toMembers, Option.bind_eq_bind, Option.bind_some]
  simp [Options.param, Options.find, Options.web_matches, lower, camelCase, toNullable_str, RoomState.read_web,
    RoomRole.read_web, hmem, members_read_web, network_read_web, -List.all_eq_true]
  unfold RoomSnapshot.fits
  cases s.network.all (fun n => fitsInt32 n.roundTripTimeMilliseconds) <;>
    cases s.members.all (fun m => fitsInt32 m.roundTripTimeMilliseconds) <;> rfl

/-- **A response keeps every field exactly where the round-trip times fit**: all of them below 2^31. -/
theorem response_keeps_fields_iff (s : RoomSnapshot) (n : NetworkStatus) :
    (TerracottaRoomSnapshot.read Options.web s.toValue = some s.toContract ↔
      (∀ n ∈ s.network, ∀ r ∈ n.roundTripTimeMilliseconds, r.toNat < 2147483648) ∧
        ∀ m ∈ s.members, ∀ r ∈ m.roundTripTimeMilliseconds, r.toNat < 2147483648) ∧
      (TerracottaNetworkStatus.read Options.web n.toValue = some n.toContract ↔
        ∀ r ∈ n.roundTripTimeMilliseconds, r.toNat < 2147483648) := by
  constructor
  · rw [RoomSnapshot.read_web, ← RoomSnapshot.fits_iff]
    cases s.fits <;> simp
  · rw [NetworkStatus.read_web, ← fitsInt32_iff]
    cases fitsInt32 n.roundTripTimeMilliseconds <;> simp

/-- What `parse_latency` makes of the cell `1e10`: the cast to `u32` saturates. -/
def slowMember : RoomMember := ⟨"guest", "Guest", .relay, some 4294967295, none⟩

/-- **Neither record of a slow peer is read**: the largest round-trip time the Helper can write is no `int`. -/
theorem slow_peer_is_not_read :
    let network : NetworkStatus := ⟨none, .relay, some 4294967295, none, none, true⟩
    let snapshot : RoomSnapshot := { RoomSnapshot.idle with state := .connected, role := .host, members := [slowMember] }
    TerracottaRoomSnapshot.read Options.web snapshot.toValue = none ∧
      TerracottaNetworkStatus.read Options.web network.toValue = none := by
  intro network snapshot
  refine ⟨?_, ?_⟩
  · rw [RoomSnapshot.read_web]
    exact if_neg (by decide)
  · rw [NetworkStatus.read_web]
    exact if_neg (by decide)

/-! ## A push says nothing

Every key the Helper writes starts with a small letter and every parameter of the records with a capital, and without
options the two are compared as they stand. -/

/-- What is left of every pushed snapshot: each parameter's default, a null member list among them. -/
def TerracottaRoomSnapshot.blank : TerracottaRoomSnapshot :=
  { state := .idle, role := .none, roomCode := none, localAddress := none, gameSessionId := none, network := none,
    members := none }

def TerracottaNetworkStatus.blank : TerracottaNetworkStatus :=
  { natType := none, connectionMode := .unknown, roundTripTimeMilliseconds := none, packetLossPercent := none,
    relayNode := none, isHealthy := false }

/-- **A parameter named with a capital takes its default** from members whose keys have none. -/
theorem param_default {α : Type} (members : List (String × Value)) (name : String) (read : Value → Option α)
    (dflt : α) (h : name ∉ members.map Prod.fst) : Options.default.param members name read dflt = some dflt := by
  apply Options.param_of_unmatched
  intro k hk
  have hne : k ≠ name := fun e => h (e ▸ hk)
  simpa [Options.matches, Options.jsonName, Options.default] using hne

theorem RoomSnapshot.read_default (s : RoomSnapshot) :
    TerracottaRoomSnapshot.read Options.default s.toValue = some .blank := by
  simp only [TerracottaRoomSnapshot.read, RoomSnapshot.toValue, toMembers, Option.bind_eq_bind, Option.bind_some]
  rw [param_default, param_default, param_default, param_default, param_default, param_default, param_default,
    param_default, param_default]
  · rfl
  all_goals simp

theorem NetworkStatus.read_default (n : NetworkStatus) :
    TerracottaNetworkStatus.read Options.default n.toValue = some .blank := by
  simp only [TerracottaNetworkStatus.read, NetworkStatus.toValue, toMembers, Option.bind_eq_bind, Option.bind_some]
  rw [param_default, param_default, param_default, param_default, param_default, param_default]
  · rfl
  all_goals simp

/-- **The one kind of network status both paths read alike**: the one whose fields are the parameters' defaults. -/
def NetworkStatus.Blank (n : NetworkStatus) : Prop :=
  n.natType = none ∧ n.connectionMode = .unknown ∧ n.roundTripTimeMilliseconds = none ∧
    (∀ x ∈ n.packetLossPercent, x.isFinite = false) ∧ n.relayNode = none ∧ n.isHealthy = false

theorem NetworkStatus.toContract_eq_blank_iff (n : NetworkStatus) : n.toContract = .blank ↔ n.Blank := by
  have hmode : n.connectionMode.toContract = .unknown ↔ n.connectionMode = .unknown := by
    cases n.connectionMode <;> simp [ConnectionMode.toContract]
  simp only [NetworkStatus.toContract, TerracottaNetworkStatus.blank, TerracottaNetworkStatus.mk.injEq,
    NetworkStatus.Blank, contractRtt, hmode, Option.map_eq_none_iff, Option.filter_eq_none_iff, Option.mem_def,
    Bool.not_eq_true]

/-- **A pushed snapshot is never what a response with the same payload would be, and a pushed network status only when
it is the blank one**: a response keeps the member list, a push reads it as null. -/
theorem push_reads_as_response_iff (sequence : Nat) (id messageType : String) :
    (∀ s : RoomSnapshot, pushSnapshot (writeEvent sequence (.stateChanged s)) ≠
        responseSnapshot (Envelope.response id messageType s.toValue)) ∧
      ∀ n : NetworkStatus, pushNetwork (writeEvent sequence (.networkUpdated n)) =
        responseNetwork (Envelope.response id messageType n.toValue) ↔ n.Blank := by
  refine ⟨fun s => ?_, fun n => ?_⟩
  · show TerracottaRoomSnapshot.read Options.default s.toValue ≠ TerracottaRoomSnapshot.read Options.web s.toValue
    rw [RoomSnapshot.read_default, RoomSnapshot.read_web]
    split
    · intro h
      have hm := congrArg (fun t => t.map TerracottaRoomSnapshot.members) h
      simp [TerracottaRoomSnapshot.blank, RoomSnapshot.toContract] at hm
    · intro h; cases h
  · show TerracottaNetworkStatus.read Options.default n.toValue = TerracottaNetworkStatus.read Options.web n.toValue ↔ _
    rw [NetworkStatus.read_default, NetworkStatus.read_web, ← NetworkStatus.toContract_eq_blank_iff]
    split
    · rw [Option.some.injEq, eq_comm]
    · rename_i hfit
      refine ⟨fun h => (by cases h), fun h => absurd ?_ hfit⟩
      have hrtt : n.roundTripTimeMilliseconds = none := ((NetworkStatus.toContract_eq_blank_iff n).1 h).2.2.1
      rw [hrtt]
      rfl

def healthyNetwork : NetworkStatus := ⟨some "FullCone", .direct, some 5, some F64.zero, none, true⟩

def connectedHost : RoomSnapshot :=
  { state := .connected
    role := .host
    roomCode := some "AB12-CD34-EF56"
    localAddress := none
    gameSessionId := some "session-1"
    network := some healthyNetwork
    members := [⟨"host", "Host", .direct, some 0, some F64.zero⟩]
    errorCode := none
    errorMessage := none }

/-- The plugin reads that push as an idle room without role, code or members, where the response with the same payload
is the connected room, and its healthy network as an unhealthy one. -/
theorem push_of_connectedHost_reads_idle :
    let push := pushSnapshot (writeEvent 1 (.stateChanged connectedHost))
    let response := responseSnapshot (Envelope.response "1" "room.status.result" connectedHost.toValue)
    let pushed := pushNetwork (writeEvent 2 (.networkUpdated healthyNetwork))
    let responded := responseNetwork (Envelope.response "2" "diagnostic.updated" healthyNetwork.toValue)
    push ≠ response ∧ push.map (·.state) = some .idle ∧ response.map (·.state) = some .connected ∧
      push.map (·.role) = some .none ∧ response.map (·.role) = some .host ∧
      push.map (·.roomCode) = some none ∧ response.map (·.roomCode) = some (some "AB12-CD34-EF56") ∧
      push.map (·.members) = some none ∧ response.map (·.members) = some connectedHost.toContract.members ∧
      pushed ≠ responded ∧ pushed.map (·.isHealthy) = some false ∧ responded.map (·.isHealthy) = some true := by
  have hpush : pushSnapshot (writeEvent 1 (.stateChanged connectedHost)) = some .blank := RoomSnapshot.read_default _
  have hresponse : responseSnapshot (Envelope.response "1" "room.status.result" connectedHost.toValue) =
      some connectedHost.toContract := (RoomSnapshot.read_web _).trans (if_pos (by decide))
  have hpushed : pushNetwork (writeEvent 2 (.networkUpdated healthyNetwork)) = some .blank :=
    NetworkStatus.read_default _
  have hresponded : responseNetwork (Envelope.response "2" "diagnostic.updated" healthyNetwork.toValue) =
      some healthyNetwork.toContract := (NetworkStatus.read_web _).trans (if_pos (by decide))
  simp only [hpush, hresponse, hpushed, hresponded]
  decide

end Terracotta
