import Terracotta.LiveRoom
import Terracotta.MeshNetwork
/-!
# Moving a room to another LAN address (`network/backend.rs`, `network/port_forward.rs`, `network/discovery.rs`)

A host owns a Scaffolding server, two forwards on the ports its members know, and a file that local members read.
`set_lan_address` replaces them one after another while the old ones are there.  Here they are, with the sockets that are
open, and the call is refined by `EasyTierRoomBackend.setLanAddress`, which knows of the session alone.
-/
namespace Terracotta

open Net (SocketAddr)

/-! ## The file of an advertisement -/

/-- What is at the path of an advertisement. -/
inductive EndpointFile where
  | absent
  | part -- of a text
  | whole (advertisement : RoomEndpointAdvertisement)
deriving DecidableEq

/-- What `publish_local_endpoint` comes to, behind its path. -/
inductive Publication where
  -- the directory is not made or not restricted, or the file is not opened
  | refused (error : String)
  -- the file is emptied, and its text is not written to the end
  | cut (error : String)
  -- the text is written, and the file is not restricted
  | unrestricted (error : String)
  | done
deriving DecidableEq

def Publication.written : Publication → Except String Unit
  | .refused error | .cut error | .unrestricted error => .error error
  | .done => .ok ()

def Publication.leaves (file : EndpointFile) (advertisement : RoomEndpointAdvertisement) : Publication → EndpointFile
  | .refused _ => file
  | .cut _ => .part
  | .unrestricted _ | .done => .whole advertisement

/-- `publish_local_endpoint` with the file it is about. -/
def publishFile (advertisement : RoomEndpointAdvertisement) (file : EndpointFile) (publication : Publication) :
    EndpointFile × Except RoomError Unit :=
  match advertisementPath advertisement.roomCode with
  | .error error => (file, .error error)
  | .ok _ => (publication.leaves file advertisement, publication.written.mapError discoveryIo)

theorem publishFile_result (advertisement : RoomEndpointAdvertisement) (file : EndpointFile) (publication : Publication) :
    (publishFile advertisement file publication).2 = publishLocalEndpoint advertisement publication.written := by
  unfold publishFile publishLocalEndpoint
  cases advertisementPath advertisement.roomCode <;> rfl

/-! ## Sockets -/

/-- The error of a bind to an address in use, as Linux words it. -/
def addressInUse : String := "Address already in use (os error 98)"

/-- `TcpListener::bind`: a second socket on an address is refused, and `outcome` is what else may come of it. -/
def listen (listening : List SocketAddr) (bind : SocketAddr) (outcome : Except String Unit) : Except String Unit :=
  match outcome with
  | .error error => .error error
  | .ok () => if bind ∈ listening then .error addressInUse else .ok ()

structure PortForward where
  localAddr : SocketAddr
  target : SocketAddr
deriving DecidableEq

/-- `PortForward::start_on` for a mesh ingress. -/
def PortForward.startOn (verb service : String) (listening : List SocketAddr) (bind target : SocketAddr)
    (outcome : Except String Unit) : Except RoomError (PortForward × List SocketAddr) := do
  startIngress verb service (listen listening bind outcome)
  return (⟨bind, target⟩, bind :: listening)

/-! ## A host -/

/-- A host's session with what it owns, and the sockets that are open on its machine. -/
structure HostNode where
  session : HostSession
  server : Nat -- which of the Scaffolding servers it has started is the session's
  scaffoldingIngress : PortForward
  minecraftIngress : PortForward
  file : EndpointFile
  listening : List SocketAddr
deriving DecidableEq

/-- What the system comes to in `set_lan_address`; that an address is in use is not among it. -/
structure LanSteps where
  server : ServerOutcomes
  scaffoldingIngress : Except String Unit
  minecraftIngress : Except String Unit
  publication : Publication
  nowUnixSeconds : Nat

namespace HostNode

/-- The host behind `create`, beside other sockets. -/
def opened (host : HostSession) (file : EndpointFile) (others : List SocketAddr) : HostNode where
  session := host
  server := 0
  scaffoldingIngress := ⟨host.endpoints.meshIngressBindScaffolding, host.scaffoldingAddr⟩
  minecraftIngress := ⟨host.endpoints.meshIngressBindMinecraft, host.minecraft⟩
  file := file
  listening := host.endpoints.meshIngressBindMinecraft :: host.endpoints.meshIngressBindScaffolding ::
    host.scaffoldingAddr :: others

/-- The end of the server that is running. -/
def stopServer (n : HostNode) : HostNode :=
  { n with
    session := { n.session with serving := false }, listening := n.listening.erase n.session.scaffoldingAddr }

section Steps

variable (crypto : Crypto)

/-- The replacements of `set_lan_address`, up to the end of the ingresses they replace. -/
def replace (n : HostNode) (b : EasyTierRoomBackend) (address : SocketAddr) (steps : LanSteps) :
    Except RoomError HostNode := do
  let identity ← b.requireIdentity
  let (context, scaffoldingAddr) ← startServer crypto "rebind" identity address.port steps.server
  let listening := scaffoldingAddr :: n.listening
  let (scaffoldingIngress, listening) ← PortForward.startOn "rebind" "Scaffolding" listening
    n.session.endpoints.meshIngressBindScaffolding scaffoldingAddr steps.scaffoldingIngress
  let (minecraftIngress, listening) ← PortForward.startOn "rebind" "Minecraft" listening
    n.session.endpoints.meshIngressBindMinecraft address steps.minecraftIngress
  -- the replacements are in place, and the previous ingresses are stopped behind that
  return { n with
    session := { n.session with scaffoldingContext := context, scaffoldingAddr, serving := true, minecraft := address }
    server := n.server + 1
    scaffoldingIngress, minecraftIngress
    listening := (listening.erase n.scaffoldingIngress.localAddr).erase n.minecraftIngress.localAddr }

def setLanAddress (n : HostNode) (b : EasyTierRoomBackend) (address : SocketAddr) (steps : LanSteps) :
    HostNode × Except RoomError Unit :=
  if !address.ip.isLoopback || address.port == 0 then
    (n, .error (RoomError.invalid "The LAN address must use a loopback IP and a non-zero port."))
  else match n.stopServer.replace crypto b address steps with
    | .error error => (n.stopServer, .error error)
    | .ok n =>
      let (file, result) := publishFile
        { roomCode := n.session.credentials.roomCode, scaffolding := n.session.scaffoldingAddr.toString
          minecraft := address.toString, publishedUnixSeconds := steps.nowUnixSeconds } n.file steps.publication
      ({ n with file }, result)

end Steps

/-- The sockets that are open behind the new server. -/
def serverSockets (n : HostNode) (steps : LanSteps) : List SocketAddr :=
  match steps.server.localAddr with
  | .ok port => loopback port.1 :: n.stopServer.listening
  | .error _ => n.stopServer.listening

/-- What the system comes to in `set_lan_address` on this host, addresses in use among it. -/
def outcomes (n : HostNode) (steps : LanSteps) : LanOutcomes where
  server := steps.server
  scaffoldingIngress :=
    listen (n.serverSockets steps) n.session.endpoints.meshIngressBindScaffolding steps.scaffoldingIngress
  minecraftIngress :=
    listen (n.session.endpoints.meshIngressBindScaffolding :: n.serverSockets steps)
      n.session.endpoints.meshIngressBindMinecraft steps.minecraftIngress
  written := steps.publication.written
  nowUnixSeconds := steps.nowUnixSeconds

variable {crypto : Crypto} {n : HostNode} {b : EasyTierRoomBackend} {address : SocketAddr} {steps : LanSteps}

/-! ## What the replacements come to -/

theorem of_mapError_ok {ε δ α : Type} {x : Except ε α} {f : ε → δ} {a : α} (h : x.mapError f = .ok a) : x = .ok a := by
  cases x with
  | error e => cases h
  | ok value =>
    cases h
    rfl

theorem startServer_ok {verb : String} {identity : List UInt8} {minecraftPort : Nat} {outcomes : ServerOutcomes}
    {context : ServerContext} {scaffoldingAddr : SocketAddr}
    (h : startServer crypto verb identity minecraftPort outcomes = .ok (context, scaffoldingAddr)) :
    outcomes.bind = .ok () ∧ ∃ port, outcomes.localAddr = .ok port ∧ scaffoldingAddr = loopback port.1 ∧
      ServerContext.new (hostProfile crypto identity) minecraftPort outcomes.now = .ok context := by
  unfold startServer at h
  obtain ⟨made, hmade, h⟩ := of_bind_ok h
  obtain ⟨bound, hbind, h⟩ := of_bind_ok h
  obtain ⟨port, hport, h⟩ := of_bind_ok h
  cases h
  exact ⟨of_mapError_ok hbind, port, of_mapError_ok hport, rfl, of_mapError_ok hmade⟩

/-- **A server starts for every port but zero**, if it binds. -/
theorem startServer_eq (crypto : Crypto) (verb : String) (identity : List UInt8) {minecraftPort : Nat} (hport : minecraftPort ≠ 0)
    {outcomes : ServerOutcomes} {port : Port} (hbind : outcomes.bind = .ok ()) (hlocal : outcomes.localAddr = .ok port) :
    ∃ context, startServer crypto verb identity minecraftPort outcomes = .ok (context, loopback port.1) ∧
      context.minecraftPort = minecraftPort := by
  obtain ⟨context, hnew, hkept⟩ : ∃ context, ServerContext.new (hostProfile crypto identity) minecraftPort outcomes.now =
      .ok context ∧ context.minecraftPort = minecraftPort :=
    ⟨_, ServerContext.new_ok.2 ⟨hport, hostProfile_valid crypto identity, rfl⟩, rfl⟩
  refine ⟨context, ?_, hkept⟩
  unfold startServer
  rw [hnew, hbind, hlocal]
  rfl

theorem startIngress_ok {verb service : String} {outcome : Except String Unit} {u : Unit} :
    startIngress verb service outcome = .ok u ↔ outcome = .ok () := by
  cases outcome with
  | error e => exact ⟨fun h => (by cases h), fun h => by cases h⟩
  | ok u => exact ⟨fun _ => rfl, fun _ => rfl⟩

theorem startOn_ok {verb service : String} {listening listening' : List SocketAddr} {bind target : SocketAddr}
    {outcome : Except String Unit} {forward : PortForward}
    (h : PortForward.startOn verb service listening bind target outcome = .ok (forward, listening')) :
    listen listening bind outcome = .ok () ∧ forward = ⟨bind, target⟩ ∧ listening' = bind :: listening := by
  unfold PortForward.startOn at h
  obtain ⟨started, hstarted, h⟩ := of_bind_ok h
  cases h
  exact ⟨startIngress_ok.1 hstarted, rfl, rfl⟩

theorem startOn_eq {verb service : String} {listening : List SocketAddr} {bind : SocketAddr} {outcome : Except String Unit}
    (target : SocketAddr) (h : listen listening bind outcome = .ok ()) :
    PortForward.startOn verb service listening bind target outcome = .ok (⟨bind, target⟩, bind :: listening) := by
  unfold PortForward.startOn
  rw [h]
  rfl

/-- **No step of the replacement fails.** -/
structure Succeeds (n : HostNode) (b : EasyTierRoomBackend) (steps : LanSteps) : Prop where
  identity : b.identity.isSome = true
  bind : steps.server.bind = .ok ()
  localAddr : ∃ port, steps.server.localAddr = .ok port
  scaffoldingIngress : (n.outcomes steps).scaffoldingIngress = .ok ()
  minecraftIngress : (n.outcomes steps).minecraftIngress = .ok ()

/-- What a replacement leaves. -/
structure Replaced (n n' : HostNode) (address : SocketAddr) (steps : LanSteps) : Prop where
  serving : n'.session.serving = true
  server : n'.server = n.server + 1
  credentials : n'.session.credentials = n.session.credentials
  file : n'.file = n.file

theorem replace_ok {n' : HostNode} (h : n.stopServer.replace crypto b address steps = .ok n') :
    n.Succeeds b steps ∧ Replaced n n' address steps := by
  unfold replace at h
  obtain ⟨identity, hidentity, h⟩ := of_bind_ok h
  obtain ⟨⟨context, scaffoldingAddr⟩, hserver, h⟩ := of_bind_ok h
  obtain ⟨⟨first, listening⟩, hfirst, h⟩ := of_bind_ok h
  obtain ⟨⟨second, listening'⟩, hsecond, h⟩ := of_bind_ok h
  cases h
  obtain ⟨hbind, port, hport, rfl, -⟩ := startServer_ok hserver
  obtain ⟨hscaffolding, -, rfl⟩ := startOn_ok hfirst
  obtain ⟨hminecraft, -, -⟩ := startOn_ok hsecond
  have hsockets : n.serverSockets steps = loopback port.1 :: n.stopServer.listening := by
    unfold serverSockets
    rw [hport]
  have hsome : b.identity.isSome = true := by
    rw [EasyTierRoomBackend.requireIdentity_ok.1 hidentity]
    rfl
  refine ⟨⟨hsome, hbind, ⟨port, hport⟩, ?_, ?_⟩, ⟨rfl, rfl, rfl, rfl⟩⟩
  · unfold outcomes
    rw [hsockets]
    exact hscaffolding
  · unfold outcomes
    rw [hsockets]
    exact hminecraft

/-- **A replacement goes through if no step of it fails.** -/
theorem replace_of_succeeds (crypto : Crypto) (h : n.Succeeds b steps) (hport : address.port ≠ 0) :
    ∃ n', n.stopServer.replace crypto b address steps = .ok n' := by
  obtain ⟨hidentity, hbind, ⟨port, hlocal⟩, hfirst, hsecond⟩ := h
  obtain ⟨identity, hb⟩ := Option.isSome_iff_exists.1 hidentity
  have hrequired : b.requireIdentity = .ok identity := EasyTierRoomBackend.requireIdentity_ok.2 hb
  have hsockets : n.serverSockets steps = loopback port.1 :: n.stopServer.listening := by
    unfold serverSockets
    rw [hlocal]
  unfold outcomes at hfirst hsecond
  rw [hsockets] at hfirst hsecond
  obtain ⟨context, hserver, -⟩ := startServer_eq crypto "rebind" identity hport hbind hlocal
  have hendpoints : n.stopServer.session.endpoints = n.session.endpoints := rfl
  unfold replace
  rw [hrequired, hendpoints]
  simp only [bind, Except.bind]
  rw [hserver]
  simp only
  rw [startOn_eq _ hfirst]
  simp only
  rw [startOn_eq _ hsecond]
  exact ⟨_, rfl⟩

/-! ## The backend's own account of it -/

theorem replace_refines (crypto : Crypto) (n : HostNode) (b : EasyTierRoomBackend) (address : SocketAddr) (steps : LanSteps) :
    (n.stopServer.replace crypto b address steps).map (fun n' => n'.session) =
      b.replaceServer crypto n.session address (n.outcomes steps) := by
  unfold replace EasyTierRoomBackend.replaceServer
  cases b.requireIdentity with
  | error e => rfl
  | ok identity =>
    simp only [bind, Except.bind]
    have houtcomes : (n.outcomes steps).server = steps.server := rfl
    rw [houtcomes]
    cases hserver : startServer crypto "rebind" identity address.port steps.server with
    | error e => rfl
    | ok started =>
      obtain ⟨context, scaffoldingAddr⟩ := started
      obtain ⟨-, port, hlocal, rfl, -⟩ := startServer_ok hserver
      have hsockets : n.serverSockets steps = loopback port.1 :: n.stopServer.listening := by
        unfold serverSockets
        rw [hlocal]
      unfold outcomes PortForward.startOn
      rw [hsockets]
      have hendpoints : n.stopServer.session.endpoints = n.session.endpoints := rfl
      rw [hendpoints]
      simp only [bind, Except.bind]
      cases startIngress "rebind" "Scaffolding" (listen (loopback port.1 :: n.stopServer.listening)
          n.session.endpoints.meshIngressBindScaffolding steps.scaffoldingIngress) with
      | error e => rfl
      | ok u =>
        simp only [pure, Except.pure]
        cases startIngress "rebind" "Minecraft" (listen (n.session.endpoints.meshIngressBindScaffolding ::
          loopback port.1 :: n.stopServer.listening) n.session.endpoints.meshIngressBindMinecraft steps.minecraftIngress) <;> rfl

/-- **A call on the host is the backend's call on its session**, with what the system comes to on this host. -/
theorem setLanAddress_refines (crypto : Crypto) (n : HostNode) (b : EasyTierRoomBackend)
    (hsession : b.session = some (.host n.session)) (address : SocketAddr) (steps : LanSteps) :
    b.setLanAddress crypto address (n.outcomes steps) =
      ({ b with session := some (.host (n.setLanAddress crypto b address steps).1.session) },
        (n.setLanAddress crypto b address steps).2) := by
  have hreplace := replace_refines crypto n b address steps
  unfold EasyTierRoomBackend.setLanAddress setLanAddress
  rw [hsession]
  simp only
  rw [← hreplace]
  split
  · rw [← hsession]
  · cases n.stopServer.replace crypto b address steps with
    | error e => rfl
    | ok n' =>
      simp only [Except.map]
      rw [publishFile_result]
      rfl

/-! ## A call that fails -/

/-- **A call that returns an error leaves everything as it was, and the server running.** -/
def KeepsOnError (crypto : Crypto) (n : HostNode) (b : EasyTierRoomBackend) (address : SocketAddr) (steps : LanSteps) :
    Prop :=
  ∀ e, (n.setLanAddress crypto b address steps).2 = .error e →
    (n.setLanAddress crypto b address steps).1 = n ∧ n.session.serving = true

theorem setLanAddress_refused (h : (!address.ip.isLoopback || address.port == 0) = true) :
    n.setLanAddress crypto b address steps =
      (n, .error (RoomError.invalid "The LAN address must use a loopback IP and a non-zero port.")) := if_pos h

theorem setLanAddress_failed (h : ¬ (!address.ip.isLoopback || address.port == 0) = true) {e : RoomError}
    (hreplace : n.stopServer.replace crypto b address steps = .error e) :
    n.setLanAddress crypto b address steps = (n.stopServer, .error e) := by
  unfold setLanAddress
  rw [if_neg h, hreplace]

/-- The old server is gone whatever comes of its replacement. -/
theorem not_keeps_of_failed (h : ¬ (!address.ip.isLoopback || address.port == 0) = true) {e : RoomError}
    (hreplace : n.stopServer.replace crypto b address steps = .error e) : ¬ KeepsOnError crypto n b address steps := by
  intro hkeeps
  have hfailed := setLanAddress_failed h hreplace
  obtain ⟨hsame, hserving⟩ := hkeeps e (by rw [hfailed])
  rw [hfailed] at hsame
  have hstopped : n.stopServer.session.serving = true := by
    rw [show n.stopServer = n from hsame]
    exact hserving
  cases hstopped

/-- What a publication comes to. -/
theorem publishFile_ok {advertisement : RoomEndpointAdvertisement} {file : EndpointFile} {publication : Publication} :
    (publishFile advertisement file publication).2 = .ok () ↔
      publication = .done ∧ ∃ path, advertisementPath advertisement.roomCode = .ok path := by
  unfold publishFile
  cases advertisementPath advertisement.roomCode with
  | error e => simp
  | ok path => cases publication <;> simp [Publication.written, Except.mapError]

theorem setLanAddress_replaced (h : ¬ (!address.ip.isLoopback || address.port == 0) = true) {n' : HostNode}
    (hreplace : n.stopServer.replace crypto b address steps = .ok n') :
    (n.setLanAddress crypto b address steps).1.server = n.server + 1 ∧
      ((n.setLanAddress crypto b address steps).2 = .ok () ↔
        steps.publication = .done ∧ ∃ path, advertisementPath n.session.credentials.roomCode = .ok path) := by
  obtain ⟨-, hreplaced⟩ := replace_ok hreplace
  unfold setLanAddress
  rw [if_neg h, hreplace]
  simp only
  refine ⟨hreplaced.server, ?_⟩
  rw [publishFile_ok, ← hreplaced.credentials]

end HostNode

/-! ## A host that was created -/

/-- A room that is created on port 25565. -/
def sampleOpened : Except RoomError (HostSession × BackendRoom) :=
  EasyTierRoomBackend.createSession zeroRoomCrypto ⟨some [], none⟩ ⟨"session-1", "127.0.0.1:25565", true, true⟩
    LiveRoom.allGood

theorem sampleOpened_ok : ∃ host room, sampleOpened = .ok (host, room) ∧ host.serving = true := ⟨_, _, rfl, rfl⟩

/-- **A server that does not bind**: the old one is gone by then, and its session stays without one. -/
theorem failed_bind_leaves_no_server :
    ∃ host room, sampleOpened = .ok (host, room) ∧
      let n := HostNode.opened host .absent []
      let steps : LanSteps :=
        ⟨⟨0, .error "Too many open files (os error 24)", .ok ⟨40001, by decide⟩⟩, .ok (), .ok (), .done, 1700000000⟩
      n.session.serving = true ∧
        (n.setLanAddress zeroRoomCrypto ⟨some [], none⟩ (loopback 25566) steps).1.session.serving = false ∧
        ¬ n.KeepsOnError zeroRoomCrypto ⟨some [], none⟩ (loopback 25566) steps := by
  obtain ⟨host, room, hcreate, hserving⟩ := sampleOpened_ok
  refine ⟨host, room, hcreate, hserving, ?_, ?_⟩
  · rfl
  · exact HostNode.not_keeps_of_failed (by decide) rfl

/-- **When a LAN change that fails keeps the host as it was**: exactly if the address is refused while the server runs, or
if nothing fails. -/
theorem failed_lan_change_keeps_host_iff (crypto : Crypto) (n : HostNode) (b : EasyTierRoomBackend) (address : SocketAddr)
    (steps : LanSteps) :
    n.KeepsOnError crypto b address steps ↔
      ((!address.ip.isLoopback || address.port == 0) = true ∧ n.session.serving = true) ∨
      ((address.ip.isLoopback = true ∧ address.port ≠ 0) ∧ n.Succeeds b steps ∧ steps.publication = .done ∧
        ∃ path, advertisementPath n.session.credentials.roomCode = .ok path) := by
  by_cases hrefused : (!address.ip.isLoopback || address.port == 0) = true
  · have hnot : ¬ (address.ip.isLoopback = true ∧ address.port ≠ 0) := by
      rintro ⟨hloopback, hport⟩
      simp [hloopback, hport] at hrefused
    unfold HostNode.KeepsOnError
    rw [HostNode.setLanAddress_refused hrefused]
    constructor
    · exact fun hkeeps => Or.inl ⟨hrefused, (hkeeps _ rfl).2⟩
    · rintro (⟨-, hserving⟩ | ⟨hvalid, -⟩)
      · exact fun _ _ => ⟨rfl, hserving⟩
      · exact absurd hvalid hnot
  · have hvalid : address.ip.isLoopback = true ∧ address.port ≠ 0 := by simpa using hrefused
    cases hreplace : n.stopServer.replace crypto b address steps with
    | error e =>
      refine ⟨fun hkeeps => absurd hkeeps (HostNode.not_keeps_of_failed hrefused hreplace), ?_⟩
      rintro (⟨hrefused', -⟩ | ⟨-, hsucceeds, -⟩)
      · exact absurd hrefused' hrefused
      · obtain ⟨n', hn'⟩ := HostNode.replace_of_succeeds crypto hsucceeds hvalid.2
        rw [hreplace] at hn'
        cases hn'
    | ok n' =>
      obtain ⟨hserver, hresult⟩ := HostNode.setLanAddress_replaced hrefused hreplace
      constructor
      · intro hkeeps
        refine Or.inr ⟨hvalid, (HostNode.replace_ok hreplace).1, hresult.1 ?_⟩
        cases hreturned : (n.setLanAddress crypto b address steps).2 with
        | ok u => rfl
        | error e =>
          -- a new server is not the old one
          rw [(hkeeps e hreturned).1] at hserver
          omega
      · rintro (⟨hrefused', -⟩ | ⟨-, -, hpublished⟩)
        · exact absurd hrefused' hrefused
        · intro e he
          rw [hresult.2 hpublished] at he
          cases he

theorem refused_address_keeps_host :
    ∃ host room, sampleOpened = .ok (host, room) ∧
      (HostNode.opened host .absent []).KeepsOnError zeroRoomCrypto ⟨some [], none⟩ (loopback 0)
        ⟨⟨0, .ok (), .ok ⟨40001, by decide⟩⟩, .ok (), .ok (), .done, 1700000000⟩ := by
  obtain ⟨host, room, hcreate, hserving⟩ := sampleOpened_ok
  exact ⟨host, room, hcreate, (failed_lan_change_keeps_host_iff _ _ _ _ _).2 (Or.inl ⟨by decide, hserving⟩)⟩

/-! ## The ports of a host's own -/

namespace HostNode

/-- What happens to a host: a call, and what its Scaffolding server does to its roster. -/
inductive Event where
  | setLanAddress (b : EasyTierRoomBackend) (address : SocketAddr) (steps : LanSteps)
  | updateContext (update : ServerContext → ServerContext)

def step (crypto : Crypto) (n : HostNode) : Event → HostNode
  | .setLanAddress b address steps => (n.setLanAddress crypto b address steps).1
  | .updateContext update =>
    { n with session := { n.session with scaffoldingContext := update n.session.scaffoldingContext } }

def after (crypto : Crypto) (n : HostNode) (events : List Event) : HostNode := events.foldl (step crypto) n

/-- **Nothing fails in a call** but a bind to an address in use. -/
structure Calm (b : EasyTierRoomBackend) (steps : LanSteps) : Prop where
  identity : b.identity.isSome = true
  bind : steps.server.bind = .ok ()
  localAddr : ∃ port, steps.server.localAddr = .ok port
  scaffoldingIngress : steps.scaffoldingIngress = .ok ()
  minecraftIngress : steps.minecraftIngress = .ok ()
  publication : steps.publication = .done

/-- The room goes by the new address: on its mesh port, and by its Scaffolding server. -/
def GoesBy (n : HostNode) (address : SocketAddr) : Prop :=
  n.minecraftIngress = ⟨n.session.endpoints.meshIngressBindMinecraft, address⟩ ∧
    n.session.endpoints.meshIngressBindMinecraft ∈ n.listening ∧
    n.session.serving = true ∧ n.session.scaffoldingContext.minecraftPort = address.port

/-- **The host's own ingress listens on the port of its replacement.** -/
def Occupied (n : HostNode) : Prop :=
  n.session.endpoints.meshIngressBindScaffolding ∈ n.listening ∧ ∃ port, n.session.scaffoldingAddr = loopback port

variable {crypto : Crypto} {n : HostNode} {b : EasyTierRoomBackend} {address : SocketAddr} {steps : LanSteps}

theorem mesh_ne_loopback (e : MeshEndpoints) (port : Nat) : e.meshIngressBindScaffolding ≠ loopback port := by
  intro heq
  cases congrArg SocketAddr.ip heq

theorem Occupied.stopServer (h : n.Occupied) : n.stopServer.Occupied := by
  obtain ⟨hmem, port, hport⟩ := h
  refine ⟨?_, port, hport⟩
  show n.session.endpoints.meshIngressBindScaffolding ∈ n.listening.erase n.session.scaffoldingAddr
  rw [hport]
  exact (List.mem_erase_of_ne (mesh_ne_loopback _ _)).2 hmem

theorem listen_of_mem {listening : List SocketAddr} {bind : SocketAddr} (h : bind ∈ listening) :
    listen listening bind (.ok ()) = .error addressInUse := if_pos h

theorem listen_ne_ok {listening : List SocketAddr} {bind : SocketAddr} {outcome : Except String Unit} (h : bind ∈ listening) :
    listen listening bind outcome ≠ .ok () := by
  cases outcome with
  | error e => exact fun hok => by cases hok
  | ok u =>
    rw [listen_of_mem h]
    exact fun hok => by cases hok

/-- **No replacement goes through**, whatever comes of its other steps. -/
theorem Occupied.replace_fails (h : n.Occupied) (crypto : Crypto) (b : EasyTierRoomBackend) (address : SocketAddr)
    (steps : LanSteps) : ∃ e, n.stopServer.replace crypto b address steps = .error e := by
  cases hreplace : n.stopServer.replace crypto b address steps with
  | error e => exact ⟨e, rfl⟩
  | ok n' =>
    have hmem : n.session.endpoints.meshIngressBindScaffolding ∈ n.serverSockets steps := by
      unfold serverSockets
      split
      · exact List.mem_cons_of_mem _ h.stopServer.1
      · exact h.stopServer.1
    exact absurd (replace_ok hreplace).1.scaffoldingIngress (listen_ne_ok hmem)

theorem Occupied.step (h : n.Occupied) (event : Event) : (n.step crypto event).Occupied := by
  cases event with
  | updateContext update => exact h
  | setLanAddress b address steps =>
    show (n.setLanAddress crypto b address steps).1.Occupied
    by_cases hrefused : (!address.ip.isLoopback || address.port == 0) = true
    · rw [setLanAddress_refused hrefused]
      exact h
    · obtain ⟨e, he⟩ := h.replace_fails crypto b address steps
      rw [setLanAddress_failed hrefused he]
      exact h.stopServer

theorem Occupied.after : ∀ {events : List Event} {n : HostNode}, n.Occupied → (n.after crypto events).Occupied
  | [], _, h => h
  | event :: _, _, h => (h.step event).after

/-- **Where nothing else fails, the bind of the Scaffolding ingress does.** -/
theorem Occupied.setLanAddress_eq (h : n.Occupied) (hloopback : address.ip.isLoopback = true) (hport : address.port ≠ 0)
    (hcalm : Calm b steps) : (n.setLanAddress crypto b address steps).2 = .error ⟨"network.mesh-ingress-failed",
      "Failed to rebind mesh Scaffolding ingress: " ++ addressInUse, true⟩ := by
  obtain ⟨hidentity, hbind, ⟨port, hlocal⟩, hingress, -, -⟩ := hcalm
  obtain ⟨identity, hb⟩ := Option.isSome_iff_exists.1 hidentity
  have hrequired : b.requireIdentity = .ok identity := EasyTierRoomBackend.requireIdentity_ok.2 hb
  obtain ⟨context, hserver, -⟩ := startServer_eq crypto "rebind" identity hport hbind hlocal
  have hlisten : listen (loopback port.1 :: n.stopServer.listening) n.stopServer.session.endpoints.meshIngressBindScaffolding
      (.ok ()) = .error addressInUse := listen_of_mem (List.mem_cons_of_mem _ h.stopServer.1)
  have hreplace : n.stopServer.replace crypto b address steps = .error ⟨"network.mesh-ingress-failed",
      "Failed to rebind mesh Scaffolding ingress: " ++ addressInUse, true⟩ := by
    unfold replace PortForward.startOn
    rw [hrequired]
    simp only [bind, Except.bind]
    rw [hserver]
    simp only
    rw [hingress, hlisten]
    rfl
  rw [setLanAddress_failed (by simp [hloopback, hport]) hreplace]

/-- The ingresses of a created room listen. -/
theorem occupied_opened {request : CreateRoomRequest} {outcomes : CreateOutcomes} {host : HostSession} {room : BackendRoom}
    (hcreate : b.createSession crypto request outcomes = .ok (host, room)) (file : EndpointFile)
    (others : List SocketAddr) : (opened host file others).Occupied := by
  refine ⟨List.mem_cons_of_mem _ List.mem_cons_self, ?_⟩
  obtain ⟨identity, hserver⟩ := (EasyTierRoomBackend.createSession_created hcreate).server
  obtain ⟨-, port, -, haddr, -⟩ := startServer_ok hserver
  exact ⟨port.1, haddr⟩

end HostNode

/-- What the first change of a room's address comes to if nothing fails but a bind to an address in use. -/
def calmSteps : LanSteps := ⟨⟨0, .ok (), .ok ⟨40001, by decide⟩⟩, .ok (), .ok (), .done, 1700000000⟩

theorem calmSteps_calm : HostNode.Calm ⟨some [], none⟩ calmSteps := ⟨rfl, rfl, ⟨_, rfl⟩, rfl, rfl, rfl⟩

/-- **The first change of a room's address** finds the room's own ingress on the port. -/
theorem first_lan_change_finds_its_port_taken :
    ∃ host room, sampleOpened = .ok (host, room) ∧
      let n := HostNode.opened host .absent []
      HostNode.Calm ⟨some [], none⟩ calmSteps ∧
        (n.setLanAddress zeroRoomCrypto ⟨some [], none⟩ (loopback 25566) calmSteps).2 =
          .error ⟨"network.mesh-ingress-failed",
            "Failed to rebind mesh Scaffolding ingress: " ++ addressInUse, true⟩ := by
  obtain ⟨host, room, hcreate, -⟩ := sampleOpened_ok
  exact ⟨host, room, hcreate, calmSteps_calm,
    (HostNode.occupied_opened hcreate .absent []).setLanAddress_eq rfl (by decide) calmSteps_calm⟩

/-- **No LAN change of a created room goes through**: whatever calls and pings came before, and where nothing else fails,
its own ingress is on the port of the replacement. -/
theorem lan_change_of_created_room_fails (crypto : Crypto) {b : EasyTierRoomBackend} {request : CreateRoomRequest}
    {outcomes : CreateOutcomes} {host : HostSession} {room : BackendRoom}
    (hcreate : b.createSession crypto request outcomes = .ok (host, room)) (file : EndpointFile) (others : List SocketAddr)
    (events : List HostNode.Event) {b' : EasyTierRoomBackend} {address : SocketAddr}
    (hloopback : address.ip.isLoopback = true) (hport : address.port ≠ 0) {steps : LanSteps}
    (hcalm : HostNode.Calm b' steps) :
    let n := (HostNode.opened host file others).after crypto events
    (n.setLanAddress crypto b' address steps).2 = .error ⟨"network.mesh-ingress-failed",
      "Failed to rebind mesh Scaffolding ingress: " ++ addressInUse, true⟩ ∧
    ¬ ((n.setLanAddress crypto b' address steps).2 = .ok () ∧ (n.setLanAddress crypto b' address steps).1.GoesBy address) := by
  intro n
  have hoccupied : n.Occupied := (HostNode.occupied_opened hcreate file others).after
  have hfails : (n.setLanAddress crypto b' address steps).2 = .error _ := hoccupied.setLanAddress_eq hloopback hport hcalm
  refine ⟨hfails, fun hmoved => ?_⟩
  rw [hfails] at hmoved
  cases hmoved.1

theorem second_lan_change_fails_alike :
    ∃ host room, sampleOpened = .ok (host, room) ∧
      let n := (HostNode.opened host .absent []).after zeroRoomCrypto
        [.setLanAddress ⟨some [], none⟩ (loopback 25566) calmSteps]
      ¬ ((n.setLanAddress zeroRoomCrypto ⟨some [], none⟩ (loopback 25567) calmSteps).2 = .ok () ∧
        (n.setLanAddress zeroRoomCrypto ⟨some [], none⟩ (loopback 25567) calmSteps).1.GoesBy (loopback 25567)) := by
  obtain ⟨host, room, hcreate, -⟩ := sampleOpened_ok
  exact ⟨host, room, hcreate,
    (lan_change_of_created_room_fails zeroRoomCrypto hcreate .absent [] _ rfl (by decide) calmSteps_calm).2⟩

end Terracotta
