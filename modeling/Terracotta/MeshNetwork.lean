import Terracotta.RoomCodes
/-!
# What two Helpers derive of one room code (`network/mesh.rs`, `network/easytier.rs`, `network/backend.rs`)

Host and member never exchange the name and the secret of their network, its ports or the place of an advertisement: the
host derives them from the code it drew, the member from the code somebody typed.
-/
namespace Terracotta

open Net (IpAddr SocketAddr)

/-! ## Mesh addresses -/

/-- `HOST_VIRTUAL_IPV4`. -/
def hostVirtualIpv4 : IpAddr := .v4 10 144 144 1

namespace MeshEndpoints

def hostScaffoldingAddr (e : MeshEndpoints) : SocketAddr := ⟨hostVirtualIpv4, e.scaffoldingPort, 0⟩

def hostMinecraftAddr (e : MeshEndpoints) : SocketAddr := ⟨hostVirtualIpv4, e.minecraftPort, 0⟩

/-- `member_port_forwards`: `tcp://local/remote`, as the EasyTier command line has it. -/
def memberPortForwards (e : MeshEndpoints) : List String :=
  ["tcp://127.0.0.1:" ++ toString e.memberLocalScaffoldingPort ++ "/10.144.144.1:" ++ toString e.scaffoldingPort,
    "tcp://127.0.0.1:" ++ toString e.memberLocalMinecraftPort ++ "/10.144.144.1:" ++ toString e.minecraftPort]

def meshIngressBindScaffolding (e : MeshEndpoints) : SocketAddr := ⟨.v4 0 0 0 0, e.scaffoldingPort, 0⟩

def meshIngressBindMinecraft (e : MeshEndpoints) : SocketAddr := ⟨.v4 0 0 0 0, e.minecraftPort, 0⟩

end MeshEndpoints

/-! ## The EasyTier process -/

structure EasyTierLaunchConfig where
  binary : String
  preferDirect : Bool
  allowRelay : Bool
  hostIpv4 : Option String
  portForwards : List String
  rpcPortal : SocketAddr
deriving DecidableEq

/-- The configuration of `join`, on its mesh path. -/
def memberLaunch (crypto : Crypto) (credentials : RoomCredentials) (binary : String) : EasyTierLaunchConfig :=
  { binary, preferDirect := true, allowRelay := true, hostIpv4 := none
    portForwards := (MeshEndpoints.fromRoomCode crypto credentials.roomCode).memberPortForwards
    rpcPortal := rpcPortalForRoom crypto credentials.roomCode }

/-! ## Ports -/

namespace MeshEndpoints

/-- The ranges of the ports. -/
theorem fromRoomCode_ports (crypto : Crypto) (roomCode : String) :
    ∃ a < 9000, ∃ b < 9000, fromRoomCode crypto roomCode = ⟨41000 + a, 51000 + b, 42000 + a, 52000 + b⟩ :=
  ⟨_, Nat.mod_lt _ (by decide), _, Nat.mod_lt _ (by decide), rfl⟩

/-- **The four ports fit a `u16`, none is zero, and no two are the same**, whatever the digest. -/
theorem ports_distinct (crypto : Crypto) (roomCode : String) :
    let e := fromRoomCode crypto roomCode
    let ports := [e.scaffoldingPort, e.minecraftPort, e.memberLocalScaffoldingPort, e.memberLocalMinecraftPort]
    (∀ port ∈ ports, 0 < port ∧ port < 65536) ∧ ports.Nodup := by
  intro e ports
  obtain ⟨a, ha, b, hb, he⟩ : ∃ a < 9000, ∃ b < 9000, e = ⟨41000 + a, 51000 + b, 42000 + a, 52000 + b⟩ :=
    fromRoomCode_ports crypto roomCode
  have hports : ports = [41000 + a, 51000 + b, 42000 + a, 52000 + b] := by simp only [ports, he]
  rw [hports]
  constructor
  · intro port hport
    simp only [List.mem_cons, List.not_mem_nil, or_false] at hport
    omega
  · -- the ranges of the first and third port overlap, and these two differ by a thousand
    simp only [List.nodup_cons, List.mem_cons, List.not_mem_nil, or_false, not_or, not_false_eq_true, List.nodup_nil,
      and_true]
    omega

theorem toString_v4 (a b c d port scope : Nat) : (SocketAddr.mk (.v4 a b c d) port scope).toString =
    String.ofList (Net.showIpv4 a b c d) ++ ":" ++ toString port := by
  have hport : (toString port).toList = Net.showDec port := by
    rw [Nat.toString_eq_ofList_toDigits, String.toList_ofList]
    rfl
  refine String.toList_injective ?_
  rw [String.toList_append, String.toList_append, hport]
  show (String.ofList (Net.showIpv4 a b c d ++ ':' :: Net.showDec port)).toList = _
  rw [String.toList_ofList, String.toList_ofList, List.append_assoc]
  rfl

/-- **A forward leads from the member's own endpoint to the host's**, at the port of the host's ingress. -/
theorem memberPortForwards_eq (e : MeshEndpoints) : e.memberPortForwards =
    ["tcp://" ++ e.memberLocalScaffoldingAddr.toString ++ "/" ++ e.hostScaffoldingAddr.toString,
      "tcp://" ++ e.memberLocalMinecraftAddr.toString ++ "/" ++ e.hostMinecraftAddr.toString] := by
  have hlocal : String.ofList (Net.showIpv4 127 0 0 1) = "127.0.0.1" := by decide
  have hhost : String.ofList (Net.showIpv4 10 144 144 1) = "10.144.144.1" := by decide
  have hforward : ∀ near far : Nat, "tcp://127.0.0.1:" ++ toString near ++ "/10.144.144.1:" ++ toString far =
      "tcp://" ++ (loopback near).toString ++ "/" ++ (SocketAddr.mk hostVirtualIpv4 far 0).toString := by
    intro near far
    unfold loopback hostVirtualIpv4
    rw [toString_v4, toString_v4, hlocal, hhost]
    refine String.toList_injective ?_
    simp only [String.toList_append, List.append_assoc]
    rfl
  unfold memberPortForwards
  rw [hforward, hforward]
  rfl

end MeshEndpoints

/-! ## Two sessions of one room -/

theorem startEasytier_ok {binary : String} {rpcPortal : SocketAddr} {launch : Launch} {node : EasyTierNode}
    (h : startEasytier binary rpcPortal launch = .ok node) : node = ⟨binary, rpcPortal⟩ := by
  cases launch with
  | running =>
    cases h
    rfl
  | missing | spawnFailed _ | exited _ => cases h

namespace EasyTierRoomBackend

variable {crypto : Crypto} {b : EasyTierRoomBackend}

/-- What `create` derives of the credentials it generates. -/
theorem createSession_derived {request : CreateRoomRequest} {outcomes : CreateOutcomes} {host : HostSession}
    {room : BackendRoom} (h : b.createSession crypto request outcomes = .ok (host, room)) :
    RoomCredentials.generate crypto outcomes.material = .ok host.credentials ∧
      host.endpoints = .fromRoomCode crypto host.credentials.roomCode ∧
      host.easytier.rpcPortal = rpcPortalForRoom crypto host.credentials.roomCode ∧
      room.roomCode = host.credentials.roomCode := by
  have hcreated := createSession_created h
  obtain ⟨binary, hnode⟩ := hcreated.easytier
  have hportal : host.easytier.rpcPortal = rpcPortalForRoom crypto host.credentials.roomCode := by
    rw [startEasytier_ok hnode]
  exact ⟨hcreated.credentials, hcreated.endpoints, hportal, hcreated.roomCode⟩

/-- A member's session of a room with these credentials. -/
structure Joined (crypto : Crypto) (credentials : RoomCredentials) (member : MemberSession) (room : BackendRoom) : Prop where
  roomCode : room.roomCode = credentials.roomCode
  rpcPortal : member.easytier.rpcPortal = rpcPortalForRoom crypto credentials.roomCode
  -- without a forward of its own it goes through the ones of EasyTier
  mesh : member.scaffoldingForward = none →
    member.localScaffolding = (MeshEndpoints.fromRoomCode crypto credentials.roomCode).memberLocalScaffoldingAddr ∧
      member.localMinecraft = (MeshEndpoints.fromRoomCode crypto credentials.roomCode).memberLocalMinecraftAddr

theorem joinViaLocalDiscovery_joined {identity : List UInt8} {credentials : RoomCredentials} {binary : String}
    {advertisement : RoomEndpointAdvertisement} {outcomes : JoinOutcomes} {member : MemberSession} {room : BackendRoom}
    (h : joinViaLocalDiscovery crypto identity credentials binary advertisement outcomes = .ok (member, room)) :
    Joined crypto credentials member room := by
  unfold joinViaLocalDiscovery at h
  obtain ⟨easytier, hnode, h⟩ := of_bind_ok h
  obtain ⟨-, -, h⟩ := of_bind_ok h
  obtain ⟨-, -, h⟩ := of_bind_ok h
  obtain ⟨scaffolding, -, h⟩ := of_bind_ok h
  obtain ⟨minecraft, -, h⟩ := of_bind_ok h
  obtain rfl := startEasytier_ok hnode
  cases h
  exact ⟨rfl, rfl, fun hnone => by cases hnone⟩

theorem joinViaMesh_joined {identity : List UInt8} {credentials : RoomCredentials} {binary : String}
    {outcomes : JoinOutcomes} {member : MemberSession} {room : BackendRoom}
    (h : joinViaMesh crypto identity credentials binary outcomes = .ok (member, room)) :
    Joined crypto credentials member room := by
  unfold joinViaMesh at h
  obtain ⟨easytier, hnode, h⟩ := of_bind_ok h
  obtain ⟨-, -, h⟩ := of_bind_ok h
  obtain rfl := startEasytier_ok hnode
  cases h
  exact ⟨rfl, rfl, fun _ => ⟨rfl, rfl⟩⟩

/-- What `join` derives of the code it is given. -/
theorem joinSession_joined {request : JoinRoomRequest} {outcomes : JoinOutcomes} {member : MemberSession}
    {room : BackendRoom} (h : b.joinSession crypto request outcomes = .ok (member, room)) :
    ∃ credentials, RoomCredentials.fromRoomCode crypto request.roomCode = .ok credentials ∧
      Joined crypto credentials member room := by
  obtain ⟨-, identity, binary, credentials, hcredentials, hpath⟩ := joinSession_cases h
  refine ⟨credentials, hcredentials, ?_⟩
  rcases hpath with ⟨advertisement, hlocal⟩ | hmesh
  · exact joinViaLocalDiscovery_joined hlocal
  · exact joinViaMesh_joined hmesh

end EasyTierRoomBackend

/-! ## One room on both sides -/

/-- Two texts with one normal form have the same characters in capitals. -/
theorem compact_of_normalized {typed code : String} (h : normalizeRoomCode typed = .ok code) :
    compactRoomCode typed.toList = compactRoomCode code.toList := by
  obtain ⟨a, b, c, -, -, -, hchars, hcode⟩ := normalizeRoomCode_groups h
  have hcompact : a ++ b ++ c = compactRoomCode typed.toList := hchars
  have htwelve := (twelve_compact typed).2 (normalizeRoomCode_eq_ok.1 h).1
  have hall : ∀ x ∈ a ++ b ++ c, isCodeChar x = true := by
    intro x hx
    rw [hcompact] at hx
    exact isCodeChar_of_mem_compact hx (htwelve.2 x hx)
  rw [hcode, compact_grouped hall, hcompact]

/-- **A text and its normal form have the same credentials.** -/
theorem fromRoomCode_of_normalized {crypto : Crypto} {typed code : String} (h : normalizeRoomCode typed = .ok code) :
    RoomCredentials.fromRoomCode crypto typed = RoomCredentials.fromRoomCode crypto code := by
  have hcanonical := normalizeRoomCode_canonical (normalizeRoomCode_ok h)
  have hservice : ∀ value, Credentials.normalizeRoomCode value = normalizeRoomCode value := fun _ => rfl
  unfold RoomCredentials.fromRoomCode
  rw [hservice, hservice, h, hcanonical]

/-- Credentials are those of the code in them. -/
theorem fromRoomCode_self {crypto : Crypto} {source : String} {credentials : RoomCredentials}
    (h : RoomCredentials.fromRoomCode crypto source = .ok credentials) :
    RoomCredentials.fromRoomCode crypto credentials.roomCode = .ok credentials := by
  have hcode : normalizeRoomCode source = .ok credentials.roomCode := by
    unfold RoomCredentials.fromRoomCode at h
    obtain ⟨code, hcode, h⟩ := of_bind_ok h
    cases h
    exact hcode
  rw [← fromRoomCode_of_normalized hcode, h]

theorem generate_self {crypto : Crypto} {material : Option (Vector UInt8 12)} {credentials : RoomCredentials}
    (h : RoomCredentials.generate crypto material = .ok credentials) :
    RoomCredentials.fromRoomCode crypto credentials.roomCode = .ok credentials := by
  cases material with
  | none => cases h
  | some material => exact fromRoomCode_self h

/-- The service hands its backend the normal form of a code. -/
theorem joinBegin_roomCode {svc svc' : RoomService} {typed code : String} {gameSessionId : Option String}
    {request : JoinRoomRequest} (h : svc.joinBegin ⟨typed, gameSessionId⟩ = .ok (svc', request))
    (hcode : normalizeRoomCode typed = .ok code) : request.roomCode = code := by
  unfold RoomService.joinBegin at h
  rw [hcode] at h
  obtain ⟨found, hfound, h⟩ := of_bind_ok h
  cases hfound
  obtain ⟨id, -, h⟩ := of_bind_ok h
  split at h
  · cases h
  · cases h
    rfl

/-- **Host and member derive the same of a room**: whatever code the host drew and however it was typed, the member's
credentials, endpoints, RPC portal and advertisement are the host's, its two forwards lead to the host's virtual address at
the ports of the host's ingresses, and the four ports of a room are distinct. -/
theorem both_sides_derive_alike (crypto : Crypto) (material : Option (Vector UInt8 12)) (credentials : RoomCredentials)
    (hgenerate : RoomCredentials.generate crypto material = .ok credentials) (typed : String)
    (htyped : normalizeRoomCode typed = .ok credentials.roomCode) :
    let endpoints := MeshEndpoints.fromRoomCode crypto credentials.roomCode
    let portal := rpcPortalForRoom crypto credentials.roomCode
    RoomCredentials.fromRoomCode crypto typed = .ok credentials ∧
    MeshEndpoints.fromRoomCode crypto typed = endpoints ∧
    (∃ path, advertisementPath typed = .ok path ∧ advertisementPath credentials.roomCode = .ok path) ∧
    -- what a host that created this room goes by
    (∀ (b : EasyTierRoomBackend) (request : CreateRoomRequest) (outcomes : CreateOutcomes) (host : HostSession)
      (room : BackendRoom), b.createSession crypto request outcomes = .ok (host, room) → host.credentials = credentials →
        host.endpoints = endpoints ∧ host.easytier.rpcPortal = portal ∧ room.roomCode = credentials.roomCode) ∧
    -- what a member goes by that typed its code
    (∀ (svc svc' : RoomService) (gameSessionId : Option String) (request : JoinRoomRequest),
      svc.joinBegin ⟨typed, gameSessionId⟩ = .ok (svc', request) →
        ∀ (b : EasyTierRoomBackend) (outcomes : JoinOutcomes) (member : MemberSession) (room : BackendRoom),
          b.joinSession crypto request outcomes = .ok (member, room) →
            EasyTierRoomBackend.Joined crypto credentials member room) ∧
    (∀ binary, (memberLaunch crypto credentials binary).portForwards =
      ["tcp://" ++ endpoints.memberLocalScaffoldingAddr.toString ++ "/" ++ endpoints.hostScaffoldingAddr.toString,
        "tcp://" ++ endpoints.memberLocalMinecraftAddr.toString ++ "/" ++ endpoints.hostMinecraftAddr.toString]) ∧
    (endpoints.hostScaffoldingAddr.ip = hostVirtualIpv4 ∧ endpoints.hostMinecraftAddr.ip = hostVirtualIpv4 ∧
      endpoints.hostScaffoldingAddr.port = endpoints.meshIngressBindScaffolding.port ∧
      endpoints.hostMinecraftAddr.port = endpoints.meshIngressBindMinecraft.port) ∧
    ((∀ port ∈ [endpoints.scaffoldingPort, endpoints.minecraftPort, endpoints.memberLocalScaffoldingPort,
        endpoints.memberLocalMinecraftPort], 0 < port ∧ port < 65536) ∧
      [endpoints.scaffoldingPort, endpoints.minecraftPort, endpoints.memberLocalScaffoldingPort,
        endpoints.memberLocalMinecraftPort].Nodup) := by
  intro endpoints portal
  have hself := generate_self hgenerate
  have hcompact := compact_of_normalized htyped
  have htwelve := (normalizeRoomCode_eq_ok.1 htyped).1
  refine ⟨(fromRoomCode_of_normalized htyped).trans hself, ?_, ⟨compactRoomCode typed.toList, ?_, ?_⟩, ?_, ?_, ?_, ?_, ?_⟩
  · show MeshEndpoints.fromRoomCode crypto typed = MeshEndpoints.fromRoomCode crypto credentials.roomCode
    unfold MeshEndpoints.fromRoomCode
    rw [hcompact]
  · exact advertisementPath_eq_ok.2 ⟨htwelve, rfl⟩
  · refine advertisementPath_eq_ok.2 ⟨?_, hcompact⟩
    rw [← twelve_compact, ← hcompact, twelve_compact]
    exact htwelve
  · rintro b request outcomes host room hcreate rfl
    obtain ⟨-, hendpoints, hportal, hcode⟩ := EasyTierRoomBackend.createSession_derived hcreate
    exact ⟨hendpoints, hportal, hcode⟩
  · intro svc svc' gameSessionId request hbegin b outcomes member room hjoin
    have hrequest : request.roomCode = credentials.roomCode := joinBegin_roomCode hbegin htyped
    obtain ⟨derived, hderived, hjoined⟩ := EasyTierRoomBackend.joinSession_joined hjoin
    rw [hrequest, hself] at hderived
    cases hderived
    exact hjoined
  · exact fun binary => endpoints.memberPortForwards_eq
  · exact ⟨rfl, rfl, rfl, rfl⟩
  · exact MeshEndpoints.ports_distinct crypto credentials.roomCode

/-- SHA-256 and its HMAC of the room the bytes zero draw. -/
def zeroRoomCrypto : Crypto where
  sha256 bytes :=
    if bytes = Text.utf8 "AAAAAAAAAAAA".toList then #v[5, 146, 206, 222, 171, 191, 131, 109, 141, 28, 116, 86, 65, 124,
      118, 83, 172, 32, 143, 113, 233, 4, 211, 208, 171, 55, 250, 247, 17, 2, 26, 255]
    else if bytes = Text.utf8 "AAAA-AAAA-AAAA".toList then #v[35, 123, 250, 36, 249, 18, 80, 47, 19, 157, 48, 128, 114,
      30, 241, 88, 208, 225, 117, 198, 230, 30, 238, 196, 218, 58, 89, 9, 66, 170, 134, 103]
    else Vector.replicate 32 0
  hmacSha256 _ _ := #v[0, 97, 245, 192, 102, 82, 1, 4, 33, 38, 65, 217, 166, 234, 129, 103, 108, 193, 79, 78, 69, 210,
    203, 239, 124, 233, 238, 131, 156, 68, 166, 130]

def zeroRoom : RoomCredentials :=
  ⟨"AAAA-AAAA-AAAA", networkNameFor zeroRoomCrypto (compactRoomCode "AAAA-AAAA-AAAA".toList),
    networkSecretFor zeroRoomCrypto (compactRoomCode "AAAA-AAAA-AAAA".toList)⟩

theorem zeroRoom_generated : RoomCredentials.generate zeroRoomCrypto (some (Vector.replicate 12 0)) = .ok zeroRoom := by
  have hcode : String.ofList (formatRoomCode ((Vector.replicate 12 0).toList.map (fun byte : UInt8 =>
      "ABCDEFGHJKLMNPQRSTUVWXYZ23456789".toList.getD (byte.toNat % 32) 'A'))) = "AAAA-AAAA-AAAA" := by decide
  have hnormal : Credentials.normalizeRoomCode "AAAA-AAAA-AAAA" = .ok "AAAA-AAAA-AAAA" := by decide
  unfold RoomCredentials.generate
  simp only
  rw [hcode]
  unfold RoomCredentials.fromRoomCode
  rw [hnormal]
  rfl

/-- The code of that room, typed in small letters and with a blank. -/
theorem zero_room_is_joined :
    RoomCredentials.fromRoomCode zeroRoomCrypto "aaaa aaaa-aaaa" = .ok zeroRoom ∧
      MeshEndpoints.fromRoomCode zeroRoomCrypto "aaaa aaaa-aaaa" = ⟨42426, 58958, 43426, 59958⟩ := by
  have h := both_sides_derive_alike zeroRoomCrypto (some (Vector.replicate 12 0)) zeroRoom zeroRoom_generated
    "aaaa aaaa-aaaa" (by decide)
  exact ⟨h.1, h.2.1.trans (by decide)⟩

/-! ## Two sessions of one room on one machine

The ports a session binds by number: the RPC portal of its EasyTier process, the ingresses of a host, and the forwards that
EasyTier opens for a member.  Everything else binds whatever port is free. -/

def hostPorts (crypto : Crypto) (roomCode : String) : List Nat :=
  let endpoints := MeshEndpoints.fromRoomCode crypto roomCode
  [(rpcPortalForRoom crypto roomCode).port, endpoints.meshIngressBindScaffolding.port,
    endpoints.meshIngressBindMinecraft.port]

inductive JoinPath where
  | localDiscovery
  | mesh
deriving DecidableEq

def memberPorts (crypto : Crypto) (roomCode : String) : JoinPath → List Nat
  | .localDiscovery => [(rpcPortalForRoom crypto roomCode).port]
  | .mesh =>
    let endpoints := MeshEndpoints.fromRoomCode crypto roomCode
    [(rpcPortalForRoom crypto roomCode).port, endpoints.memberLocalScaffoldingAddr.port,
      endpoints.memberLocalMinecraftAddr.port]

def HostSession.fixedPorts (host : HostSession) : List Nat :=
  [host.easytier.rpcPortal.port, host.endpoints.meshIngressBindScaffolding.port,
    host.endpoints.meshIngressBindMinecraft.port]

/-- The path a session came by: a session of the mesh has no forwards of its own. -/
def MemberSession.path (member : MemberSession) : JoinPath :=
  match member.scaffoldingForward with
  | some _ => .localDiscovery
  | none => .mesh

def MemberSession.fixedPorts (member : MemberSession) : List Nat :=
  match member.path with
  | .localDiscovery => [member.easytier.rpcPortal.port]
  | .mesh => [member.easytier.rpcPortal.port, member.localScaffolding.port, member.localMinecraft.port]

theorem createSession_fixedPorts {crypto : Crypto} {b : EasyTierRoomBackend} {request : CreateRoomRequest}
    {outcomes : CreateOutcomes} {host : HostSession} {room : BackendRoom}
    (h : b.createSession crypto request outcomes = .ok (host, room)) : host.fixedPorts = hostPorts crypto room.roomCode := by
  obtain ⟨-, hendpoints, hportal, hcode⟩ := EasyTierRoomBackend.createSession_derived h
  unfold HostSession.fixedPorts hostPorts
  rw [hendpoints, hportal, hcode]

theorem joinSession_fixedPorts {crypto : Crypto} {b : EasyTierRoomBackend} {request : JoinRoomRequest}
    {outcomes : JoinOutcomes} {member : MemberSession} {room : BackendRoom}
    (h : b.joinSession crypto request outcomes = .ok (member, room)) :
    member.fixedPorts = memberPorts crypto room.roomCode member.path := by
  obtain ⟨credentials, -, hjoined⟩ := EasyTierRoomBackend.joinSession_joined h
  unfold MemberSession.fixedPorts
  rw [hjoined.roomCode, hjoined.rpcPortal]
  cases hforward : member.scaffoldingForward with
  | some forward =>
    have hpath : member.path = .localDiscovery := by simp only [MemberSession.path, hforward]
    rw [hpath]
    rfl
  | none =>
    have hpath : member.path = .mesh := by simp only [MemberSession.path, hforward]
    obtain ⟨hscaffolding, hminecraft⟩ := hjoined.mesh hforward
    rw [hpath, hscaffolding, hminecraft]
    rfl

/-- The portals have a range of their own, below that of the endpoints. -/
theorem rpcPortalForRoom_port (crypto : Crypto) (roomCode : String) : ∃ a < 1000, (rpcPortalForRoom crypto roomCode).port =
    19000 + a :=
  ⟨_, Nat.mod_lt _ (by decide), rfl⟩

/-- **Host and member of a room contend for its RPC portal, and for nothing else**, on either path of the member. -/
theorem portal_is_contended (crypto : Crypto) (roomCode : String) (path : JoinPath) :
    ¬ (hostPorts crypto roomCode).Disjoint (memberPorts crypto roomCode path) ∧
    (∀ port, (port ∈ hostPorts crypto roomCode ∧ port ∈ memberPorts crypto roomCode path) ↔
      port = (rpcPortalForRoom crypto roomCode).port) ∧
    -- these are the ports of the sessions `create` and `join` store
    (∀ (b : EasyTierRoomBackend) (request : CreateRoomRequest) (outcomes : CreateOutcomes) (host : HostSession)
      (room : BackendRoom), b.createSession crypto request outcomes = .ok (host, room) → room.roomCode = roomCode →
        host.fixedPorts = hostPorts crypto roomCode) ∧
    (∀ (b : EasyTierRoomBackend) (request : JoinRoomRequest) (outcomes : JoinOutcomes) (member : MemberSession)
      (room : BackendRoom), b.joinSession crypto request outcomes = .ok (member, room) → room.roomCode = roomCode →
        member.path = path → member.fixedPorts = memberPorts crypto roomCode path) := by
  obtain ⟨p, hp, hportal⟩ := rpcPortalForRoom_port crypto roomCode
  obtain ⟨a, ha, b, hb, hendpoints⟩ := MeshEndpoints.fromRoomCode_ports crypto roomCode
  have hhost : hostPorts crypto roomCode = [19000 + p, 41000 + a, 51000 + b] := by
    unfold hostPorts
    rw [hportal, hendpoints]
    rfl
  have hshared : ∀ port, (port ∈ hostPorts crypto roomCode ∧ port ∈ memberPorts crypto roomCode path) ↔
      port = (rpcPortalForRoom crypto roomCode).port := by
    intro port
    rw [hhost, hportal]
    cases path with
    | localDiscovery =>
      have hmember : memberPorts crypto roomCode .localDiscovery = [19000 + p] := by rw [memberPorts, hportal]
      rw [hmember]
      simp only [List.mem_cons, List.not_mem_nil, or_false]
      omega
    | mesh =>
      have hmember : memberPorts crypto roomCode .mesh = [19000 + p, 42000 + a, 52000 + b] := by
        rw [memberPorts, hportal, hendpoints]
        rfl
      rw [hmember]
      -- the ranges of a host's and a member's forwards overlap, but both come from one `a` and one `b`
      simp only [List.mem_cons, List.not_mem_nil, or_false]
      omega
  refine ⟨fun hdisjoint => ?_, hshared, ?_, ?_⟩
  · obtain ⟨hmine, htheirs⟩ := (hshared _).2 rfl
    exact hdisjoint hmine htheirs
  · rintro b request outcomes host room h rfl
    exact createSession_fixedPorts h
  · rintro b request outcomes member room h rfl rfl
    exact joinSession_fixedPorts h

theorem ports_of_a_room_collide : ¬ ∀ (crypto : Crypto) (roomCode : String) (path : JoinPath),
    (hostPorts crypto roomCode).Disjoint (memberPorts crypto roomCode path) := by
  intro h
  have hhost : 19083 ∈ hostPorts zeroRoomCrypto "AAAA-AAAA-AAAA" := by decide
  have hmember : 19083 ∈ memberPorts zeroRoomCrypto "AAAA-AAAA-AAAA" .localDiscovery := by decide
  exact h zeroRoomCrypto "AAAA-AAAA-AAAA" .localDiscovery hhost hmember

end Terracotta
