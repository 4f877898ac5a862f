import Terracotta.Scaffolding
/-!
# The room backend (`network/backend.rs`)

`EasyTierRoomBackend` keeps the identity and at most one session, of a host or of a member, and goes through a dozen
calls of the system to open one.  What each of these comes to is an argument: a binary that is found or not, a process
that starts or exits, listeners, connections, files and the answers of other programs.  A session is stored behind the
last call that can fail, so that a call that fails leaves none.
-/
namespace Terracotta

open Net (SocketAddr)

/-! ## EasyTier (`network/easytier.rs`) -/

structure EasyTierNode where
  binary : String
  rpcPortal : SocketAddr
deriving DecidableEq

def easytierMissing : RoomError :=
  ⟨"network.easytier-missing", "The EasyTier runtime or one of its required native dependencies was not found next to " ++
    "terracotta-helper. On Windows, easytier-core.exe and Packet.dll must be installed together.", false⟩

/-- What comes of starting the process. -/
inductive Launch where
  | missing -- the binary is no longer a file
  | spawnFailed (error : String)
  | exited (status : String)
  | running
deriving DecidableEq

def startEasytier (binary : String) (rpcPortal : SocketAddr) : Launch → Except RoomError EasyTierNode
  | .missing => .error easytierMissing
  | .spawnFailed error => .error ⟨"network.easytier-start-failed", "Failed to start EasyTier: " ++ error, true⟩
  | .exited status =>
    .error ⟨"network.easytier-start-failed", "EasyTier exited immediately with status " ++ status ++ ".", true⟩
  | .running => .ok ⟨binary, rpcPortal⟩

/-! ## Local discovery (`network/discovery.rs`) -/

structure RoomEndpointAdvertisement where
  roomCode : String
  scaffolding : String
  minecraft : String
  publishedUnixSeconds : Nat
deriving DecidableEq

def discoveryInvalid (message : String) : RoomError := ⟨"network.discovery-invalid", message, false⟩

def discoveryIo (error : String) : RoomError :=
  ⟨"network.discovery-io", "Local room discovery failed: " ++ error, true⟩

def parseLoopback (value : String) : Except RoomError SocketAddr :=
  match SocketAddr.parse value with
  | none => .error (discoveryInvalid "The local room advertisement contains an invalid endpoint.")
  | some address =>
    if !address.ip.isLoopback || address.port == 0 then
      .error (discoveryInvalid "The local room advertisement must use a loopback endpoint.")
    else .ok address

/-- The name of a room's file, without its extension. -/
def advertisementPath (roomCode : String) : Except RoomError (List Char) :=
  let compact := compactRoomCode roomCode.toList
  if Text.utf8Len compact ≠ 12 ∨ !compact.all Char.isAlphanum then
    .error ⟨"room.invalid-code", "The room code must contain three groups of four ASCII letters or digits.", false⟩
  else .ok compact

/-- `publish_local_endpoint`, where `written` is what its directory and file come to. -/
def publishLocalEndpoint (advertisement : RoomEndpointAdvertisement) (written : Except String Unit) :
    Except RoomError Unit := do
  let _ ← advertisementPath advertisement.roomCode
  written.mapError discoveryIo

/-- What is found at the path of an advertisement, and the Unix time of the look. -/
inductive DiscoveryFile where
  | absent
  | unreadable (error : String)
  | malformed
  | advertisement (advertisement : RoomEndpointAdvertisement) (nowUnixSeconds : Nat)
deriving DecidableEq

/-- `MAX_AGE`, six hours. -/
def maxAdvertisementAge : Nat := 6 * 60 * 60

def loadLocalEndpoint (roomCode : String) (file : DiscoveryFile) : Except RoomError (Option RoomEndpointAdvertisement) := do
  let _ ← advertisementPath roomCode
  match file with
  | .absent => return none
  | .unreadable error => .error (discoveryIo error)
  | .malformed => .error (discoveryInvalid "The local room advertisement is invalid.")
  | .advertisement advertisement nowUnixSeconds =>
    if compactRoomCode roomCode.toList ≠ compactRoomCode advertisement.roomCode.toList then
      .error (discoveryInvalid "The local room advertisement does not match the requested room code.")
    else
      let _ ← parseLoopback advertisement.scaffolding
      let _ ← parseLoopback advertisement.minecraft
      if maxAdvertisementAge < nowUnixSeconds - advertisement.publishedUnixSeconds then return none
      else return some advertisement

/-- `try_local_endpoint`: the attempts that are left, of `LOCAL_DISCOVERY_ATTEMPTS`. -/
def tryLocalEndpoint (roomCode : String) (file : Nat → DiscoveryFile) :
    Nat → Except RoomError (Option RoomEndpointAdvertisement)
  | 0 => .ok none
  | left + 1 => do
    match ← loadLocalEndpoint roomCode (file (7 - left)) with
    | some advertisement => return some advertisement
    | none => tryLocalEndpoint roomCode file left

/-! ## Quality (`network/quality.rs`, `network/easytier_cli.rs`) -/

def classifyNat (rtt : Option UInt32) (mode : ConnectionMode) : String :=
  match rtt, mode with
  | none, _ => "Unreachable"
  | some ms, .direct =>
    if ms < 40 then "LikelyOpenOrFullCone" else if ms < 120 then "LikelyAddressRestricted"
    else "LikelySymmetricOrCongested"
  | some _, .relay => "RelayAssisted"
  | some _, .unknown => "Unknown"

def networkFromProbe (rtt : Option UInt32) (preferDirect allowRelay : Bool) : NetworkStatus :=
  let mode : ConnectionMode :=
    if !rtt.isSome then .unknown else if preferDirect then .direct else if allowRelay then .relay else .unknown
  { natType := some (classifyNat rtt mode), connectionMode := mode, roundTripTimeMilliseconds := rtt
    packetLossPercent := if rtt.isSome then some F64.zero else none
    relayNode := if mode = .relay then some "shared-public" else none
    isHealthy := rtt.isSome }

def membersFromProfiles (profiles : List PlayerProfile) (rtt : Option UInt32) (mode : ConnectionMode) : List RoomMember :=
  profiles.map (fun profile =>
    { id := profile.machineId, displayName := profile.name
      connectionMode := if profile.kind = some .host then .direct else mode
      roundTripTimeMilliseconds := rtt
      packetLossPercent := if rtt.isSome then some F64.zero else none })

/-- A sample of `easytier-cli peer`; the loss rate is in percent, as `network_from_peer_sample` multiplies it out. -/
structure PeerQualitySample where
  natType : Option String
  latencyMs : Option UInt32
  lossPercent : Option F64
  connectionMode : ConnectionMode
  relayNode : Option String
deriving DecidableEq

def networkFromPeerSample (sample : PeerQualitySample) : NetworkStatus :=
  { natType := sample.natType.or (some "Unknown"), connectionMode := sample.connectionMode
    roundTripTimeMilliseconds := sample.latencyMs, packetLossPercent := sample.lossPercent
    relayNode := sample.relayNode
    isHealthy := sample.latencyMs.isSome || sample.connectionMode != .unknown }

/-- What `sample_network` gets: a sample, if the command line tool is there and has one, and the time of a probe. -/
structure Probes where
  sample : Option PeerQualitySample
  rtt : Option UInt32
deriving DecidableEq

def sampleNetwork (preferDirect allowRelay : Bool) (probes : Probes) : NetworkStatus :=
  match probes.sample with
  | some sample =>
    let network := networkFromPeerSample sample
    if network.roundTripTimeMilliseconds = none then
      { network with roundTripTimeMilliseconds := probes.rtt, isHealthy := probes.rtt.isSome }
    else network
  | none => networkFromProbe probes.rtt preferDirect allowRelay

/-! ## Sessions -/

structure HostSession where
  credentials : RoomCredentials
  endpoints : MeshEndpoints
  easytier : EasyTierNode
  scaffoldingContext : ServerContext
  scaffoldingAddr : SocketAddr
  serving : Bool -- the task of the Scaffolding server has not been aborted
  minecraft : SocketAddr
  preferDirect : Bool
  allowRelay : Bool
deriving DecidableEq

structure MemberSession where
  easytier : EasyTierNode
  scaffoldingForward : Option SocketAddr
  minecraftForward : Option SocketAddr
  minecraftBroadcast : Bool -- announced on the LAN
  localScaffolding : SocketAddr
  localMinecraft : SocketAddr
  preferDirect : Bool
  allowRelay : Bool
deriving DecidableEq

inductive ActiveSession where
  | host (session : HostSession)
  | member (session : MemberSession)
deriving DecidableEq

structure EasyTierRoomBackend where
  identity : Option (List UInt8)
  session : Option ActiveSession
deriving DecidableEq

/-- The port of a listener that asked for any. -/
abbrev Port := { n : Nat // 0 < n ∧ n < 65536 }

/-- What starting a Scaffolding server comes to, and when. -/
structure ServerOutcomes where
  now : Nat
  bind : Except String Unit
  localAddr : Except String Port

/-- `ServerContext::new`, `ScaffoldingServer::bind` and `local_addr`, to bind or to rebind. -/
def startServer (crypto : Crypto) (verb : String) (identity : List UInt8) (minecraftPort : Nat)
    (outcomes : ServerOutcomes) : Except RoomError (ServerContext × SocketAddr) := do
  let failed := fun (retryable : Bool) (message : String) => RoomError.mk "network.scaffolding-failed" message retryable
  let context ← (ServerContext.new (hostProfile crypto identity) minecraftPort outcomes.now).mapError
    (fun error => failed false ("Failed to create Scaffolding context: " ++ error.toString))
  outcomes.bind.mapError
    (fun error => failed true ("Failed to " ++ verb ++ " Scaffolding server: " ++ (ScaffoldingError.io error).toString))
  let port ← outcomes.localAddr.mapError (fun error => failed true ("Failed to read Scaffolding address: " ++ error))
  return (context, loopback port.1)

/-- `PortForward::start_on` for a mesh ingress. -/
def startIngress (verb service : String) (outcome : Except String Unit) : Except RoomError Unit :=
  outcome.mapError (fun error =>
    ⟨"network.mesh-ingress-failed", "Failed to " ++ verb ++ " mesh " ++ service ++ " ingress: " ++ error, true⟩)

/-- `PortForward::start`. -/
def startForward (service : String) (outcome : Except String Port) : Except RoomError SocketAddr :=
  match outcome with
  | .error error => .error ⟨"network.forward-failed", "Failed to create " ++ service ++ " forward: " ++ error, true⟩
  | .ok port => .ok (loopback port.1)

def hostNetworkStatus (preferDirect allowRelay : Bool) : NetworkStatus :=
  { natType := some "Unknown"
    connectionMode := if preferDirect then .direct else if allowRelay then .relay else .unknown
    roundTripTimeMilliseconds := some 0, packetLossPercent := some F64.zero, relayNode := none, isHealthy := true }

/-- What a `ScaffoldingClient` gets of a host: the time of its ping, and the players. -/
structure Heartbeat where
  rtt : UInt32
  players : List PlayerProfile
deriving DecidableEq

/-- `collect_member_snapshot`, with the heartbeat if there was one. -/
def collectMemberSnapshot (guest : PlayerProfile) : Option Heartbeat → List RoomMember × Option UInt32 × ConnectionMode
  | none =>
    ([{ id := guest.machineId, displayName := guest.name, connectionMode := .unknown, roundTripTimeMilliseconds := none
        packetLossPercent := none }], none, .unknown)
  | some heartbeat =>
    (heartbeat.players.map (fun profile =>
      { id := profile.machineId, displayName := profile.name, connectionMode := .direct
        roundTripTimeMilliseconds := some heartbeat.rtt, packetLossPercent := none }), some heartbeat.rtt, .direct)

/-- `wait_for_tcp`: one of `MESH_PROBE_ATTEMPTS` connects. -/
def waitForTcp (address : SocketAddr) (connects : Nat → Bool) : Except RoomError Unit :=
  if (List.range 40).any connects then .ok ()
  else .error ⟨"network.peer-unreachable",
    "The room host was not reachable via EasyTier mesh at 10.144.144.1 (probed local forward " ++ address.toString ++
      "). Ensure the host is online, both sides share the same room code, and consider TERRACOTTA_EASYTIER_ALLOW_TUN=1 " ++
      "when userspace routing is insufficient.", true⟩

/-- What the system comes to in `create`. -/
structure CreateOutcomes where
  binary : Option String
  material : Option (Vector UInt8 12)
  launch : Launch
  server : ServerOutcomes
  scaffoldingIngress : Except String Unit
  minecraftIngress : Except String Unit
  written : Except String Unit
  nowUnixSeconds : Nat

/-- What the system comes to in `join`, on both of its paths. -/
structure JoinOutcomes where
  binary : Option String
  file : Nat → DiscoveryFile
  launch : Launch
  connects : Nat → Bool
  scaffoldingForward : Except String Port
  minecraftForward : Except String Port
  heartbeat : Option Heartbeat
  broadcast : Bool

/-- What the system comes to in `set_lan_address`. -/
structure LanOutcomes where
  server : ServerOutcomes
  scaffoldingIngress : Except String Unit
  minecraftIngress : Except String Unit
  written : Except String Unit
  nowUnixSeconds : Nat

/-- What the system comes to in `refresh`; a host asks for no heartbeat. -/
structure RefreshOutcomes where
  probes : Probes
  heartbeat : Option Heartbeat

namespace EasyTierRoomBackend

variable (crypto : Crypto)

def new : EasyTierRoomBackend := ⟨none, none⟩

def setIdentity (b : EasyTierRoomBackend) (identity : List UInt8) : EasyTierRoomBackend :=
  { b with identity := some identity }

def requireIdentity (b : EasyTierRoomBackend) : Except RoomError (List UInt8) :=
  match b.identity with
  | none =>
    .error ⟨"identity.not-initialized", "Initialize the secure identity before entering a room.", false⟩
  | some identity => .ok identity

def ensureIdle (b : EasyTierRoomBackend) : Except RoomError Unit :=
  if b.session.isSome then
    .error ⟨"room.operation-in-progress", "A room session is already active in the network backend.", false⟩
  else .ok ()

/-- `resolve_easytier_binary`, or its error. -/
def requireBinary : Option String → Except RoomError String
  | none => .error easytierMissing
  | some binary => .ok binary

/-- `create` up to the session it stores; the checks of the address are those of the room service, with its texts. -/
def createSession (b : EasyTierRoomBackend) (request : CreateRoomRequest) (outcomes : CreateOutcomes) :
    Except RoomError (HostSession × BackendRoom) := do
  b.ensureIdle
  let identity ← b.requireIdentity
  let binary ← requireBinary outcomes.binary
  let minecraft ← validateLoopbackAddress request.lanAddress
  let credentials ← RoomCredentials.generate crypto outcomes.material
  let easytier ← startEasytier binary (rpcPortalForRoom crypto credentials.roomCode) outcomes.launch
  let (context, scaffoldingAddr) ← startServer crypto "bind" identity minecraft.port outcomes.server
  startIngress "bind" "Scaffolding" outcomes.scaffoldingIngress
  startIngress "bind" "Minecraft" outcomes.minecraftIngress
  publishLocalEndpoint
    { roomCode := credentials.roomCode, scaffolding := scaffoldingAddr.toString, minecraft := minecraft.toString
      publishedUnixSeconds := outcomes.nowUnixSeconds } outcomes.written
  return (
    { credentials, endpoints := .fromRoomCode crypto credentials.roomCode, easytier, scaffoldingContext := context
      scaffoldingAddr, serving := true, minecraft, preferDirect := request.preferDirect
      allowRelay := request.allowRelay },
    { roomCode := credentials.roomCode, localAddress := none
      network := hostNetworkStatus request.preferDirect request.allowRelay
      members := [{ id := machineIdFromIdentity crypto identity, displayName := "Host", connectionMode := .direct
                    roundTripTimeMilliseconds := some 0, packetLossPercent := some F64.zero }] })

def create (b : EasyTierRoomBackend) (request : CreateRoomRequest) (outcomes : CreateOutcomes) :
    EasyTierRoomBackend × Except RoomError BackendRoom :=
  match b.createSession crypto request outcomes with
  | .error error => (b, .error error)
  | .ok (host, room) => ({ b with session := some (.host host) }, .ok room)

/-- `join_via_local_discovery` up to the session it stores. -/
def joinViaLocalDiscovery (identity : List UInt8) (credentials : RoomCredentials) (binary : String)
    (advertisement : RoomEndpointAdvertisement) (outcomes : JoinOutcomes) :
    Except RoomError (MemberSession × BackendRoom) := do
  let easytier ← startEasytier binary (rpcPortalForRoom crypto credentials.roomCode) outcomes.launch
  let _ ← parseLoopback advertisement.scaffolding
  let _ ← parseLoopback advertisement.minecraft
  let scaffoldingForward ← startForward "Scaffolding" outcomes.scaffoldingForward
  let minecraftForward ← startForward "Minecraft" outcomes.minecraftForward
  let (members, rtt, _) := collectMemberSnapshot (guestProfile crypto identity) outcomes.heartbeat
  return (
    { easytier, scaffoldingForward := some scaffoldingForward, minecraftForward := some minecraftForward
      minecraftBroadcast := outcomes.broadcast, localScaffolding := scaffoldingForward
      localMinecraft := minecraftForward, preferDirect := true, allowRelay := true },
    { roomCode := credentials.roomCode, localAddress := some minecraftForward.toString
      network := { natType := some "Local", connectionMode := .direct, roundTripTimeMilliseconds := rtt
                   packetLossPercent := some F64.zero, relayNode := none, isHealthy := true }
      members })

/-- The mesh path of `join`, up to the session it stores. -/
def joinViaMesh (identity : List UInt8) (credentials : RoomCredentials) (binary : String) (outcomes : JoinOutcomes) :
    Except RoomError (MemberSession × BackendRoom) := do
  let endpoints := MeshEndpoints.fromRoomCode crypto credentials.roomCode
  let easytier ← startEasytier binary (rpcPortalForRoom crypto credentials.roomCode) outcomes.launch
  waitForTcp endpoints.memberLocalScaffoldingAddr outcomes.connects
  let (members, rtt, mode) := collectMemberSnapshot (guestProfile crypto identity) outcomes.heartbeat
  return (
    { easytier, scaffoldingForward := none, minecraftForward := none, minecraftBroadcast := outcomes.broadcast
      localScaffolding := endpoints.memberLocalScaffoldingAddr, localMinecraft := endpoints.memberLocalMinecraftAddr
      preferDirect := true, allowRelay := true },
    { roomCode := credentials.roomCode, localAddress := some endpoints.memberLocalMinecraftAddr.toString
      network := { natType := some "Unknown", connectionMode := mode, roundTripTimeMilliseconds := rtt
                   packetLossPercent := none, relayNode := none, isHealthy := true }
      members })

/-- `join` up to the session it stores. -/
def joinSession (b : EasyTierRoomBackend) (request : JoinRoomRequest) (outcomes : JoinOutcomes) :
    Except RoomError (MemberSession × BackendRoom) := do
  b.ensureIdle
  let identity ← b.requireIdentity
  let binary ← requireBinary outcomes.binary
  let credentials ← RoomCredentials.fromRoomCode crypto request.roomCode
  match ← tryLocalEndpoint credentials.roomCode outcomes.file 8 with
  | some advertisement => joinViaLocalDiscovery crypto identity credentials binary advertisement outcomes
  | none => joinViaMesh crypto identity credentials binary outcomes

def join (b : EasyTierRoomBackend) (request : JoinRoomRequest) (outcomes : JoinOutcomes) :
    EasyTierRoomBackend × Except RoomError BackendRoom :=
  match b.joinSession crypto request outcomes with
  | .error error => (b, .error error)
  | .ok (member, room) => ({ b with session := some (.member member) }, .ok room)

/-- The replacements of `set_lan_address`, behind the end of the old server. -/
def replaceServer (b : EasyTierRoomBackend) (host : HostSession) (address : SocketAddr) (outcomes : LanOutcomes) :
    Except RoomError HostSession := do
  let identity ← b.requireIdentity
  let (context, scaffoldingAddr) ← startServer crypto "rebind" identity address.port outcomes.server
  startIngress "rebind" "Scaffolding" outcomes.scaffoldingIngress
  startIngress "rebind" "Minecraft" outcomes.minecraftIngress
  return { host with scaffoldingContext := context, scaffoldingAddr, serving := true, minecraft := address }

def setLanAddress (b : EasyTierRoomBackend) (address : SocketAddr) (outcomes : LanOutcomes) :
    EasyTierRoomBackend × Except RoomError Unit :=
  match b.session with
  | some (.host host) =>
    if !address.ip.isLoopback || address.port == 0 then
      (b, .error (RoomError.invalid "The LAN address must use a loopback IP and a non-zero port."))
    else match b.replaceServer crypto host address outcomes with
      | .error error => ({ b with session := some (.host { host with serving := false }) }, .error error)
      | .ok host =>
        ({ b with session := some (.host host) },
          publishLocalEndpoint
            { roomCode := host.credentials.roomCode, scaffolding := host.scaffoldingAddr.toString
              minecraft := address.toString, publishedUnixSeconds := outcomes.nowUnixSeconds } outcomes.written)
  | _ => (b, .error ⟨"room.not-host", "Only a connected room host can change the LAN address.", false⟩)

def refresh (b : EasyTierRoomBackend) (outcomes : RefreshOutcomes) : Except RoomError BackendRefresh :=
  match b.session with
  | some (.host host) =>
    let network := sampleNetwork host.preferDirect host.allowRelay outcomes.probes
    .ok { network := some network
          members := some (membersFromProfiles host.scaffoldingContext.playerProfiles
            network.roundTripTimeMilliseconds network.connectionMode)
          localAddress := none }
  | some (.member member) =>
    let network := sampleNetwork member.preferDirect member.allowRelay outcomes.probes
    .ok { network := some network
          members := outcomes.heartbeat.map (fun heartbeat =>
            membersFromProfiles heartbeat.players (some heartbeat.rtt) network.connectionMode)
          localAddress := some member.localMinecraft.toString }
  | none => .ok {}

def diagnose (b : EasyTierRoomBackend) (outcomes : RefreshOutcomes) : Except RoomError NetworkStatus := do
  let refresh ← b.refresh outcomes
  match refresh.network with
  | some network => return network
  | none => .error ⟨"room.not-connected", "Network diagnostics require an active room.", false⟩

/-- `leave`: whatever stopping the session comes to, it is taken out. -/
def leave (b : EasyTierRoomBackend) : EasyTierRoomBackend × Except RoomError Unit := ({ b with session := none }, .ok ())

/-- The host's roster, changed by its Scaffolding server. -/
def updateContext (b : EasyTierRoomBackend) (update : ServerContext → ServerContext) : EasyTierRoomBackend :=
  match b.session with
  | some (.host host) =>
    { b with session := some (.host { host with scaffoldingContext := update host.scaffoldingContext }) }
  | _ => b

/-! ## What an opened session looks like -/

end EasyTierRoomBackend

theorem of_bind_ok {ε α β : Type} {x : Except ε α} {f : α → Except ε β} {b : β} (h : (x >>= f) = .ok b) :
    ∃ a, x = .ok a ∧ f a = .ok b := by
  cases x with
  | error e => cases h
  | ok a => exact ⟨a, rfl, h⟩

namespace EasyTierRoomBackend

variable {crypto : Crypto} {b : EasyTierRoomBackend}

theorem requireIdentity_ok {identity : List UInt8} : b.requireIdentity = .ok identity ↔ b.identity = some identity := by
  unfold requireIdentity
  cases b.identity <;> simp

theorem ensureIdle_ok {u : Unit} (h : b.ensureIdle = .ok u) : b.session = none := by
  unfold ensureIdle at h
  split at h
  · cases h
  · rename_i hnone
    simpa using hnone

/-- What the steps of a `create` that goes through come to. -/
structure Created (crypto : Crypto) (b : EasyTierRoomBackend) (outcomes : CreateOutcomes) (host : HostSession)
    (room : BackendRoom) : Prop where
  idle : b.session = none
  credentials : RoomCredentials.generate crypto outcomes.material = .ok host.credentials
  endpoints : host.endpoints = .fromRoomCode crypto host.credentials.roomCode
  easytier : ∃ binary, startEasytier binary (rpcPortalForRoom crypto host.credentials.roomCode) outcomes.launch =
    .ok host.easytier
  server : ∃ identity, startServer crypto "bind" identity host.minecraft.port outcomes.server =
    .ok (host.scaffoldingContext, host.scaffoldingAddr)
  roomCode : room.roomCode = host.credentials.roomCode
  localAddress : room.localAddress = none

theorem createSession_created {request : CreateRoomRequest} {outcomes : CreateOutcomes} {host : HostSession}
    {room : BackendRoom} (h : b.createSession crypto request outcomes = .ok (host, room)) :
    Created crypto b outcomes host room := by
  unfold createSession at h
  obtain ⟨u, hidle, h⟩ := of_bind_ok h
  obtain ⟨identity, -, h⟩ := of_bind_ok h
  obtain ⟨binary, -, h⟩ := of_bind_ok h
  obtain ⟨minecraft, -, h⟩ := of_bind_ok h
  obtain ⟨credentials, hcredentials, h⟩ := of_bind_ok h
  obtain ⟨easytier, hnode, h⟩ := of_bind_ok h
  obtain ⟨⟨context, scaffoldingAddr⟩, hserver, h⟩ := of_bind_ok h
  obtain ⟨-, -, h⟩ := of_bind_ok h
  obtain ⟨-, -, h⟩ := of_bind_ok h
  obtain ⟨-, -, h⟩ := of_bind_ok h
  cases h
  exact ⟨ensureIdle_ok hidle, hcredentials, rfl, ⟨binary, hnode⟩, ⟨identity, hserver⟩, rfl, rfl⟩

/-- **What `create` returns of a session**: the code of its credentials, and no local address. -/
theorem createSession_ok {request : CreateRoomRequest} {outcomes : CreateOutcomes} {host : HostSession}
    {room : BackendRoom} (h : b.createSession crypto request outcomes = .ok (host, room)) :
    room.roomCode = host.credentials.roomCode ∧ CanonicalRoomCode room.roomCode ∧ room.localAddress = none := by
  have hcreated := createSession_created h
  refine ⟨hcreated.roomCode, ?_, hcreated.localAddress⟩
  rw [hcreated.roomCode]
  exact generate_canonical hcreated.credentials

/-- A room of a member: a code in its normal form, and an endpoint on 127.0.0.1. -/
def Reachable (room : BackendRoom) : Prop :=
  CanonicalRoomCode room.roomCode ∧
    ∃ port, (0 < port ∧ port < 65536) ∧ room.localAddress = some (loopback port).toString

theorem startForward_ok {service : String} {outcome : Except String Port} {address : SocketAddr}
    (h : startForward service outcome = .ok address) : ∃ port, (0 < port ∧ port < 65536) ∧ address = loopback port := by
  cases outcome with
  | error error => cases h
  | ok port =>
    cases h
    exact ⟨port.1, port.2, rfl⟩

theorem joinViaLocalDiscovery_ok {identity : List UInt8} {credentials : RoomCredentials} {binary : String}
    {advertisement : RoomEndpointAdvertisement} {outcomes : JoinOutcomes} {member : MemberSession} {room : BackendRoom}
    (hcode : CanonicalRoomCode credentials.roomCode)
    (h : joinViaLocalDiscovery crypto identity credentials binary advertisement outcomes = .ok (member, room)) :
    Reachable room := by
  unfold joinViaLocalDiscovery at h
  obtain ⟨easytier, -, h⟩ := of_bind_ok h
  obtain ⟨-, -, h⟩ := of_bind_ok h
  obtain ⟨-, -, h⟩ := of_bind_ok h
  obtain ⟨scaffolding, -, h⟩ := of_bind_ok h
  obtain ⟨minecraft, hminecraft, h⟩ := of_bind_ok h
  obtain ⟨port, hport, rfl⟩ := startForward_ok hminecraft
  cases h
  exact ⟨hcode, port, hport, rfl⟩

theorem joinViaMesh_ok {identity : List UInt8} {credentials : RoomCredentials} {binary : String}
    {outcomes : JoinOutcomes} {member : MemberSession} {room : BackendRoom}
    (hcode : CanonicalRoomCode credentials.roomCode)
    (h : joinViaMesh crypto identity credentials binary outcomes = .ok (member, room)) : Reachable room := by
  unfold joinViaMesh at h
  obtain ⟨easytier, -, h⟩ := of_bind_ok h
  obtain ⟨-, -, h⟩ := of_bind_ok h
  have hport : 0 < (MeshEndpoints.fromRoomCode crypto credentials.roomCode).memberLocalMinecraftPort ∧
      (MeshEndpoints.fromRoomCode crypto credentials.roomCode).memberLocalMinecraftPort < 65536 := by
    unfold MeshEndpoints.fromRoomCode
    simp only
    omega
  cases h
  exact ⟨hcode, _, hport, rfl⟩

/-- A `join` that goes through finds no session, and takes one of its two paths. -/
theorem joinSession_cases {request : JoinRoomRequest} {outcomes : JoinOutcomes} {member : MemberSession}
    {room : BackendRoom} (h : b.joinSession crypto request outcomes = .ok (member, room)) :
    b.session = none ∧ ∃ identity binary credentials, RoomCredentials.fromRoomCode crypto request.roomCode = .ok credentials ∧
      ((∃ advertisement,
        joinViaLocalDiscovery crypto identity credentials binary advertisement outcomes = .ok (member, room)) ∨
      joinViaMesh crypto identity credentials binary outcomes = .ok (member, room)) := by
  unfold joinSession at h
  obtain ⟨u, hidle, h⟩ := of_bind_ok h
  obtain ⟨identity, -, h⟩ := of_bind_ok h
  obtain ⟨binary, -, h⟩ := of_bind_ok h
  obtain ⟨credentials, hcredentials, h⟩ := of_bind_ok h
  obtain ⟨found, -, h⟩ := of_bind_ok h
  refine ⟨ensureIdle_ok hidle, identity, binary, credentials, hcredentials, ?_⟩
  cases found with
  | some advertisement => exact Or.inl ⟨advertisement, h⟩
  | none => exact Or.inr h

/-- **What `join` returns of a session**, on both paths. -/
theorem joinSession_ok {request : JoinRoomRequest} {outcomes : JoinOutcomes} {member : MemberSession}
    {room : BackendRoom} (h : b.joinSession crypto request outcomes = .ok (member, room)) : Reachable room := by
  obtain ⟨-, identity, binary, credentials, hcredentials, hpath⟩ := joinSession_cases h
  have hcode := credentials_canonical hcredentials
  rcases hpath with ⟨advertisement, hlocal⟩ | hmesh
  · exact joinViaLocalDiscovery_ok hcode hlocal
  · exact joinViaMesh_ok hcode hmesh

/-- A replaced server leaves the session its credentials. -/
theorem replaceServer_ok {host replaced : HostSession} {address : SocketAddr} {outcomes : LanOutcomes}
    (h : b.replaceServer crypto host address outcomes = .ok replaced) : replaced.credentials = host.credentials := by
  unfold replaceServer at h
  obtain ⟨identity, -, h⟩ := of_bind_ok h
  obtain ⟨server, -, h⟩ := of_bind_ok h
  obtain ⟨-, -, h⟩ := of_bind_ok h
  obtain ⟨-, -, h⟩ := of_bind_ok h
  cases h
  rfl

/-- **A session always has a network to report.** -/
theorem refresh_network (h : b.session.isSome = true) (outcomes : RefreshOutcomes) :
    ∃ refresh, b.refresh outcomes = .ok refresh ∧ refresh.network.isSome = true := by
  unfold refresh
  cases hsession : b.session with
  | none => rw [hsession] at h; cases h
  | some session =>
    cases session with
    | host host => exact ⟨_, rfl, rfl⟩
    | member member => exact ⟨_, rfl, rfl⟩

end EasyTierRoomBackend

end Terracotta
