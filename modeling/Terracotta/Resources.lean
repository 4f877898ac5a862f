import Terracotta.Backend
import Terracotta.Ownership
/-!
# What a session owns of the system (`network/backend.rs`, `network/easytier.rs`, `network/port_forward.rs`)

A room is an EasyTier process, a Scaffolding server and the tasks of a few listeners.  `create` and `join` start these one
after another, with an exit behind each, and the session they store is what `leave` stops.  Here the calls are once more,
with what each exit stops; without the resources they are `EasyTierRoomBackend.create` and `EasyTierRoomBackend.join`.
-/
namespace Terracotta

open Net (SocketAddr)
open Ownership (Heap Procedure Ensures Erases Started Undone)
open Ownership.Procedure (attempt start)

inductive ResourceKind where
  | easytier -- the child process
  | server -- the Scaffolding server, bound or running
  | listener -- the task of a forward or of an ingress
deriving DecidableEq

abbrev Resource := Ownership.Resource ResourceKind

/-- The handles in a session. -/
inductive Held where
  | host (easytier server scaffoldingIngress minecraftIngress : Resource)
  | member (easytier : Resource) (scaffoldingForward minecraftForward : Option Resource)

def Held.resources : Held → List Resource
  | .host easytier server scaffoldingIngress minecraftIngress =>
    [easytier, server, scaffoldingIngress, minecraftIngress]
  | .member easytier scaffoldingForward minecraftForward =>
    easytier :: scaffoldingForward.toList ++ minecraftForward.toList

namespace EasyTierRoomBackend

variable (crypto : Crypto)

/-! ## `create` -/

/-- `ServerContext::new`. -/
def newContext (identity : List UInt8) (minecraftPort now : Nat) : Except RoomError ServerContext :=
  (ServerContext.new (hostProfile crypto identity) minecraftPort now).mapError (fun error =>
    ⟨"network.scaffolding-failed", "Failed to create Scaffolding context: " ++ error.toString, false⟩)

/-- `ScaffoldingServer::bind`. -/
def bindServer (outcome : Except String Unit) : Except RoomError Unit :=
  outcome.mapError (fun error => ⟨"network.scaffolding-failed",
    "Failed to bind Scaffolding server: " ++ (ScaffoldingError.io error).toString, true⟩)

def serverAddr (outcome : Except String Port) : Except RoomError SocketAddr := do
  let port ← outcome.mapError (fun error =>
    RoomError.mk "network.scaffolding-failed" ("Failed to read Scaffolding address: " ++ error) true)
  return loopback port.1

theorem startServer_steps (identity : List UInt8) (minecraftPort : Nat) (outcomes : ServerOutcomes) :
    startServer crypto "bind" identity minecraftPort outcomes = (do
      let context ← newContext crypto identity minecraftPort outcomes.now
      bindServer outcomes.bind
      let scaffoldingAddr ← serverAddr outcomes.localAddr
      return (context, scaffoldingAddr)) := by
  unfold startServer newContext bindServer serverAddr
  simp only [bind_assoc, pure_bind]
  rfl

/-- `create` up to the session it stores, with its exits. -/
def createHolding (b : EasyTierRoomBackend) (request : CreateRoomRequest) (outcomes : CreateOutcomes) :
    Procedure ResourceKind RoomError (Held × HostSession × BackendRoom) := do
  attempt b.ensureIdle
  let identity ← attempt b.requireIdentity
  let binary ← attempt (requireBinary outcomes.binary)
  let minecraft ← attempt (validateLoopbackAddress request.lanAddress)
  let credentials ← attempt (RoomCredentials.generate crypto outcomes.material)
  let (node, easytier) ← start .easytier
    (startEasytier binary (rpcPortalForRoom crypto credentials.roomCode) outcomes.launch)
  -- up to the server's task a `?` drops the process, and the bound server with it
  let context ← (attempt (newContext crypto identity minecraft.port outcomes.server.now)).orStop [easytier]
  let (_, server) ← (start .server (bindServer outcomes.server.bind)).orStop [easytier]
  let scaffoldingAddr ← (attempt (serverAddr outcomes.server.localAddr)).orStop [server, easytier]
  let (_, scaffoldingIngress) ←
    (start .listener (startIngress "bind" "Scaffolding" outcomes.scaffoldingIngress)).orStop [server, easytier]
  let (_, minecraftIngress) ←
    (start .listener (startIngress "bind" "Minecraft" outcomes.minecraftIngress)).orStop
      [scaffoldingIngress, server, easytier]
  (attempt (publishLocalEndpoint
    { roomCode := credentials.roomCode, scaffolding := scaffoldingAddr.toString, minecraft := minecraft.toString
      publishedUnixSeconds := outcomes.nowUnixSeconds } outcomes.written)).orStop
      [scaffoldingIngress, minecraftIngress, server, easytier]
  return (
    .host easytier server scaffoldingIngress minecraftIngress,
    { credentials, endpoints := .fromRoomCode crypto credentials.roomCode, easytier := node, scaffoldingContext := context
      scaffoldingAddr, serving := true, minecraft, preferDirect := request.preferDirect
      allowRelay := request.allowRelay },
    { roomCode := credentials.roomCode, localAddress := none
      network := hostNetworkStatus request.preferDirect request.allowRelay
      members := [{ id := machineIdFromIdentity crypto identity, displayName := "Host", connectionMode := .direct
                    roundTripTimeMilliseconds := some 0, packetLossPercent := some F64.zero }] })

/-! ## `join` -/

/-- `join_via_local_discovery`, with its exits. -/
def discoveryHolding (identity : List UInt8) (credentials : RoomCredentials) (binary : String)
    (advertisement : RoomEndpointAdvertisement) (outcomes : JoinOutcomes) :
    Procedure ResourceKind RoomError (Held × MemberSession × BackendRoom) := do
  let (node, easytier) ← start .easytier
    (startEasytier binary (rpcPortalForRoom crypto credentials.roomCode) outcomes.launch)
  let _ ← (attempt (parseLoopback advertisement.scaffolding)).orStop [easytier]
  let _ ← (attempt (parseLoopback advertisement.minecraft)).orStop [easytier]
  let (scaffoldingForward, scaffoldingTask) ←
    (start .listener (startForward "Scaffolding" outcomes.scaffoldingForward)).orStop [easytier]
  let (minecraftForward, minecraftTask) ←
    (start .listener (startForward "Minecraft" outcomes.minecraftForward)).orStop [scaffoldingTask, easytier]
  let (members, rtt, _) := collectMemberSnapshot (guestProfile crypto identity) outcomes.heartbeat
  return (
    .member easytier (some scaffoldingTask) (some minecraftTask),
    { easytier := node, scaffoldingForward := some scaffoldingForward, minecraftForward := some minecraftForward
      minecraftBroadcast := outcomes.broadcast, localScaffolding := scaffoldingForward
      localMinecraft := minecraftForward, preferDirect := true, allowRelay := true },
    { roomCode := credentials.roomCode, localAddress := some minecraftForward.toString
      network := { natType := some "Local", connectionMode := .direct, roundTripTimeMilliseconds := rtt
                   packetLossPercent := some F64.zero, relayNode := none, isHealthy := true }
      members })

/-- The mesh path of `join`, with its exits; its forwards are EasyTier's own. -/
def meshHolding (identity : List UInt8) (credentials : RoomCredentials) (binary : String) (outcomes : JoinOutcomes) :
    Procedure ResourceKind RoomError (Held × MemberSession × BackendRoom) := do
  let endpoints := MeshEndpoints.fromRoomCode crypto credentials.roomCode
  let (node, easytier) ← start .easytier
    (startEasytier binary (rpcPortalForRoom crypto credentials.roomCode) outcomes.launch)
  (attempt (waitForTcp endpoints.memberLocalScaffoldingAddr outcomes.connects)).orStop [easytier]
  let (members, rtt, mode) := collectMemberSnapshot (guestProfile crypto identity) outcomes.heartbeat
  return (
    .member easytier none none,
    { easytier := node, scaffoldingForward := none, minecraftForward := none, minecraftBroadcast := outcomes.broadcast
      localScaffolding := endpoints.memberLocalScaffoldingAddr, localMinecraft := endpoints.memberLocalMinecraftAddr
      preferDirect := true, allowRelay := true },
    { roomCode := credentials.roomCode, localAddress := some endpoints.memberLocalMinecraftAddr.toString
      network := { natType := some "Unknown", connectionMode := mode, roundTripTimeMilliseconds := rtt
                   packetLossPercent := none, relayNode := none, isHealthy := true }
      members })

/-- `join` up to the session it stores, with its exits. -/
def joinHolding (b : EasyTierRoomBackend) (request : JoinRoomRequest) (outcomes : JoinOutcomes) :
    Procedure ResourceKind RoomError (Held × MemberSession × BackendRoom) := do
  attempt b.ensureIdle
  let identity ← attempt b.requireIdentity
  let binary ← attempt (requireBinary outcomes.binary)
  let credentials ← attempt (RoomCredentials.fromRoomCode crypto request.roomCode)
  match ← attempt (tryLocalEndpoint credentials.roomCode outcomes.file 8) with
  | some advertisement => discoveryHolding crypto identity credentials binary advertisement outcomes
  | none => meshHolding crypto identity credentials binary outcomes

/-! ## Without the resources -/

variable {crypto : Crypto} {b : EasyTierRoomBackend}

theorem createHolding_erases (request : CreateRoomRequest) (outcomes : CreateOutcomes) :
    Erases (b.createHolding crypto request outcomes) Prod.snd (b.createSession crypto request outcomes) := by
  unfold createHolding createSession
  refine (Erases.attempt _).bind fun _ => ?_
  refine (Erases.attempt _).bind fun identity => ?_
  refine (Erases.attempt _).bind fun binary => ?_
  refine (Erases.attempt _).bind fun minecraft => ?_
  refine (Erases.attempt _).bind fun credentials => ?_
  refine (Erases.start _ _).bind fun easytier => ?_
  rw [startServer_steps]
  simp only [bind_assoc, pure_bind]
  refine ((Erases.attempt _).orStop _).bind fun context => ?_
  refine ((Erases.start _ _).orStop _).bind fun server => ?_
  refine ((Erases.attempt _).orStop _).bind fun scaffoldingAddr => ?_
  refine ((Erases.start _ _).orStop _).bind fun scaffoldingIngress => ?_
  refine ((Erases.start _ _).orStop _).bind fun minecraftIngress => ?_
  refine ((Erases.attempt _).orStop _).bind fun _ => ?_
  exact Erases.pure _ _

theorem discoveryHolding_erases (identity : List UInt8) (credentials : RoomCredentials) (binary : String)
    (advertisement : RoomEndpointAdvertisement) (outcomes : JoinOutcomes) :
    Erases (discoveryHolding crypto identity credentials binary advertisement outcomes) Prod.snd
      (joinViaLocalDiscovery crypto identity credentials binary advertisement outcomes) := by
  unfold discoveryHolding joinViaLocalDiscovery
  refine (Erases.start _ _).bind fun easytier => ?_
  refine ((Erases.attempt _).orStop _).bind fun _ => ?_
  refine ((Erases.attempt _).orStop _).bind fun _ => ?_
  refine ((Erases.start _ _).orStop _).bind fun scaffoldingForward => ?_
  refine ((Erases.start _ _).orStop _).bind fun minecraftForward => ?_
  exact Erases.pure _ _

theorem meshHolding_erases (identity : List UInt8) (credentials : RoomCredentials) (binary : String)
    (outcomes : JoinOutcomes) :
    Erases (meshHolding crypto identity credentials binary outcomes) Prod.snd
      (joinViaMesh crypto identity credentials binary outcomes) := by
  unfold meshHolding joinViaMesh
  refine (Erases.start _ _).bind fun easytier => ?_
  refine ((Erases.attempt _).orStop _).bind fun _ => ?_
  exact Erases.pure _ _

theorem joinHolding_erases (request : JoinRoomRequest) (outcomes : JoinOutcomes) :
    Erases (b.joinHolding crypto request outcomes) Prod.snd (b.joinSession crypto request outcomes) := by
  unfold joinHolding joinSession
  refine (Erases.attempt _).bind fun _ => ?_
  refine (Erases.attempt _).bind fun identity => ?_
  refine (Erases.attempt _).bind fun binary => ?_
  refine (Erases.attempt _).bind fun credentials => ?_
  refine (Erases.attempt _).bind fun found => ?_
  cases found with
  | some advertisement => exact discoveryHolding_erases identity credentials binary advertisement outcomes
  | none => exact meshHolding_erases identity credentials binary outcomes

/-! ## The exits -/

variable {h₀ : Heap ResourceKind}

/-- **Every exit of `create` stops what was started before it**, and its session holds all of that. -/
theorem createHolding_ensures (hnamed : h₀.Named) (request : CreateRoomRequest) (outcomes : CreateOutcomes) :
    Ensures h₀ [] (b.createHolding crypto request outcomes) (fun result => result.1.resources) := by
  unfold createHolding
  refine (Ensures.first _).bind fun _ => ?_
  refine (Ensures.first _).bind fun identity => ?_
  refine (Ensures.first _).bind fun binary => ?_
  refine (Ensures.first _).bind fun minecraft => ?_
  refine (Ensures.first _).bind fun credentials => ?_
  refine (Ensures.startFirst _ _).bind fun easytier => ?_
  refine (Ensures.attempt hnamed _ fun r => Iff.rfl).bind fun context => ?_
  refine (Ensures.start hnamed _ _ fun r => Iff.rfl).bind fun server => ?_
  refine (Ensures.attempt hnamed _ fun r => by simp [or_comm]).bind fun scaffoldingAddr => ?_
  refine (Ensures.start hnamed _ _ fun r => by simp [or_comm]).bind fun scaffoldingIngress => ?_
  refine (Ensures.start hnamed _ _ fun r => by simp; tauto).bind fun minecraftIngress => ?_
  refine (Ensures.attempt hnamed _ fun r => by simp; tauto).bind fun _ => ?_
  exact Ensures.pure rfl

theorem discoveryHolding_ensures (hnamed : h₀.Named) (identity : List UInt8) (credentials : RoomCredentials)
    (binary : String) (advertisement : RoomEndpointAdvertisement) (outcomes : JoinOutcomes) :
    Ensures h₀ [] (discoveryHolding crypto identity credentials binary advertisement outcomes)
      (fun result => result.1.resources) := by
  unfold discoveryHolding
  refine (Ensures.startFirst _ _).bind fun easytier => ?_
  refine (Ensures.attempt hnamed _ fun r => Iff.rfl).bind fun _ => ?_
  refine (Ensures.attempt hnamed _ fun r => Iff.rfl).bind fun _ => ?_
  refine (Ensures.start hnamed _ _ fun r => Iff.rfl).bind fun scaffoldingForward => ?_
  refine (Ensures.start hnamed _ _ fun r => by simp [or_comm]).bind fun minecraftForward => ?_
  exact Ensures.pure rfl

theorem meshHolding_ensures (hnamed : h₀.Named) (identity : List UInt8) (credentials : RoomCredentials)
    (binary : String) (outcomes : JoinOutcomes) :
    Ensures h₀ [] (meshHolding crypto identity credentials binary outcomes) (fun result => result.1.resources) := by
  unfold meshHolding
  refine (Ensures.startFirst _ _).bind fun easytier => ?_
  refine (Ensures.attempt hnamed _ fun r => Iff.rfl).bind fun _ => ?_
  exact Ensures.pure rfl

/-- **So does every exit of `join`**, on both of its paths. -/
theorem joinHolding_ensures (hnamed : h₀.Named) (request : JoinRoomRequest) (outcomes : JoinOutcomes) :
    Ensures h₀ [] (b.joinHolding crypto request outcomes) (fun result => result.1.resources) := by
  unfold joinHolding
  refine (Ensures.first _).bind fun _ => ?_
  refine (Ensures.first _).bind fun identity => ?_
  refine (Ensures.first _).bind fun binary => ?_
  refine (Ensures.first _).bind fun credentials => ?_
  refine (Ensures.first _).bind fun found => ?_
  cases found with
  | some advertisement => exact discoveryHolding_ensures hnamed identity credentials binary advertisement outcomes
  | none => exact meshHolding_ensures hnamed identity credentials binary outcomes

end EasyTierRoomBackend

/-! ## The backend and what it has started -/

/-- `stop_session_locked`, in its order. -/
def Held.stopSession (h : Heap ResourceKind) : Held → Heap ResourceKind
  | .host easytier server scaffoldingIngress minecraftIngress =>
    (((h.stop server).stop scaffoldingIngress).stop minecraftIngress).stop easytier
  | .member easytier scaffoldingForward minecraftForward =>
    let h := match scaffoldingForward with
      | some forward => h.stop forward
      | none => h
    let h := match minecraftForward with
      | some forward => h.stop forward
      | none => h
    h.stop easytier

structure OwningBackend where
  backend : EasyTierRoomBackend
  held : Option Held
  heap : Heap ResourceKind

namespace OwningBackend

def new : OwningBackend := ⟨.new, none, ⟨[], 0⟩⟩

/-- The resources the stored session owns. -/
def owned (w : OwningBackend) : List Resource :=
  match w.held with
  | none => []
  | some held => held.resources

section Calls

variable (crypto : Crypto)

def create (w : OwningBackend) (request : CreateRoomRequest) (outcomes : CreateOutcomes) :
    OwningBackend × Except RoomError BackendRoom :=
  match w.backend.createHolding crypto request outcomes w.heap with
  | (.error error, heap) => ({ w with heap }, .error error)
  | (.ok (held, host, room), heap) =>
    (⟨{ w.backend with session := some (.host host) }, some held, heap⟩, .ok room)

def join (w : OwningBackend) (request : JoinRoomRequest) (outcomes : JoinOutcomes) :
    OwningBackend × Except RoomError BackendRoom :=
  match w.backend.joinHolding crypto request outcomes w.heap with
  | (.error error, heap) => ({ w with heap }, .error error)
  | (.ok (held, member, room), heap) =>
    (⟨{ w.backend with session := some (.member member) }, some held, heap⟩, .ok room)

def leave (w : OwningBackend) : OwningBackend :=
  match w.held with
  | none => { w with backend := w.backend.leave.1 }
  | some held => ⟨w.backend.leave.1, none, held.stopSession w.heap⟩

inductive RoomCall where
  | initializeIdentity (identity : List UInt8)
  | create (request : CreateRoomRequest) (outcomes : CreateOutcomes)
  | join (request : JoinRoomRequest) (outcomes : JoinOutcomes)
  | leave
  -- a process exits or a task ends that nobody stopped
  | ends (r : Resource)

def step (w : OwningBackend) : RoomCall → OwningBackend
  | .initializeIdentity identity => { w with backend := w.backend.setIdentity identity }
  | .create request outcomes => (w.create crypto request outcomes).1
  | .join request outcomes => (w.join crypto request outcomes).1
  | .leave => w.leave
  | .ends r => { w with heap := w.heap.stop r }

def after (calls : List RoomCall) : OwningBackend := calls.foldl (step crypto) new

end Calls

/-! ### One call -/

/-- A handle is stored with every session, what is alive is owned, and what is owned was started. -/
structure Owning (w : OwningBackend) : Prop where
  stored : w.held.isSome = w.backend.session.isSome
  alive : ∀ r ∈ w.heap.alive, r ∈ w.owned
  named : ∀ r ∈ w.owned, r.id < w.heap.next

theorem Owning.heap_named {w : OwningBackend} (h : w.Owning) : w.heap.Named := fun r hr => h.named r (h.alive r hr)

theorem owning_new : new.Owning :=
  ⟨rfl, fun _ hr => absurd hr List.not_mem_nil, fun _ hr => absurd hr List.not_mem_nil⟩

/-- What a call that opens a room owes to the session: an error leaves it alone and nothing behind, and a room comes with
a session that owns what was started, all of it alive. -/
def Opened (w w' : OwningBackend) : Except RoomError BackendRoom → Prop
  | .error _ => w'.backend = w.backend ∧ w'.held = w.held ∧ (∀ r, r ∈ w'.heap.alive ↔ r ∈ w.heap.alive) ∧
    w.heap.next ≤ w'.heap.next
  | .ok _ => w.held = none ∧ w.heap.alive = [] ∧ w'.held.isSome = true ∧ w'.backend.session.isSome = true ∧
    (∀ r, r ∈ w'.heap.alive ↔ r ∈ w'.owned) ∧ (∀ r ∈ w'.owned, w.heap.next ≤ r.id ∧ r.id < w'.heap.next) ∧
    ∀ id, w.heap.next ≤ id → id < w'.heap.next → ∃ r ∈ w'.owned, r.id = id

theorem create_refines (crypto : Crypto) (w : OwningBackend) (request : CreateRoomRequest) (outcomes : CreateOutcomes) :
    ((w.create crypto request outcomes).1.backend, (w.create crypto request outcomes).2) =
      w.backend.create crypto request outcomes := by
  have herases : (w.backend.createHolding crypto request outcomes w.heap).1.map Prod.snd = _ :=
    EasyTierRoomBackend.createHolding_erases request outcomes w.heap
  unfold create EasyTierRoomBackend.create
  rw [← herases]
  generalize w.backend.createHolding crypto request outcomes w.heap = result
  obtain ⟨error | ⟨held, host, room⟩, heap⟩ := result <;> rfl

theorem join_refines (crypto : Crypto) (w : OwningBackend) (request : JoinRoomRequest) (outcomes : JoinOutcomes) :
    ((w.join crypto request outcomes).1.backend, (w.join crypto request outcomes).2) =
      w.backend.join crypto request outcomes := by
  have herases : (w.backend.joinHolding crypto request outcomes w.heap).1.map Prod.snd = _ :=
    EasyTierRoomBackend.joinHolding_erases request outcomes w.heap
  unfold join EasyTierRoomBackend.join
  rw [← herases]
  generalize w.backend.joinHolding crypto request outcomes w.heap = result
  obtain ⟨error | ⟨held, member, room⟩, heap⟩ := result <;> rfl

/-- Without a session nothing is alive. -/
theorem Owning.idle {w : OwningBackend} (h : w.Owning) (hidle : w.backend.session = none) :
    w.held = none ∧ w.heap.alive = [] := by
  have hheld : w.held = none := by
    have hstored := h.stored
    rw [hidle] at hstored
    simpa using hstored
  refine ⟨hheld, List.eq_nil_iff_forall_not_mem.2 (fun r hr => ?_)⟩
  have howned := h.alive r hr
  unfold owned at howned
  rw [hheld] at howned
  cases howned

/-- The heap of a procedure that opened a room on nothing. -/
theorem opened_of_started {w w' : OwningBackend} {held : Held} {room : BackendRoom} (h : w.Owning)
    (hidle : w.backend.session = none) (hstarted : Started w.heap held.resources w'.heap) (hheld : w'.held = some held)
    (hsession : w'.backend.session.isSome = true) : Opened w w' (.ok room) := by
  obtain ⟨hnone, hnil⟩ := h.idle hidle
  have howned : w'.owned = held.resources := by
    unfold owned
    rw [hheld]
  refine ⟨hnone, hnil, by rw [hheld]; rfl, hsession, fun r => ?_, ?_, ?_⟩
  · rw [hstarted.alive, hnil, howned]
    simp
  · rw [howned]
    exact hstarted.named
  · rw [howned]
    exact hstarted.all

theorem Owning.create_opened {w : OwningBackend} (h : w.Owning) (crypto : Crypto) (request : CreateRoomRequest)
    (outcomes : CreateOutcomes) : Opened w (w.create crypto request outcomes).1 (w.create crypto request outcomes).2 := by
  have hensures : Ensures w.heap [] (w.backend.createHolding crypto request outcomes) (fun result => result.1.resources) :=
    EasyTierRoomBackend.createHolding_ensures h.heap_named request outcomes
  have hended := hensures w.heap (Ownership.started_nil _)
  have herases : (w.backend.createHolding crypto request outcomes w.heap).1.map Prod.snd = _ :=
    EasyTierRoomBackend.createHolding_erases request outcomes w.heap
  unfold create
  generalize w.backend.createHolding crypto request outcomes w.heap = result at hended herases
  obtain ⟨error | ⟨held, host, room⟩, heap⟩ := result
  · exact ⟨rfl, rfl, hended.alive, hended.next⟩
  · have hidle := (EasyTierRoomBackend.createSession_created herases.symm).idle
    exact opened_of_started h hidle hended rfl rfl

theorem Owning.join_opened {w : OwningBackend} (h : w.Owning) (crypto : Crypto) (request : JoinRoomRequest)
    (outcomes : JoinOutcomes) : Opened w (w.join crypto request outcomes).1 (w.join crypto request outcomes).2 := by
  have hensures : Ensures w.heap [] (w.backend.joinHolding crypto request outcomes) (fun result => result.1.resources) :=
    EasyTierRoomBackend.joinHolding_ensures h.heap_named request outcomes
  have hended := hensures w.heap (Ownership.started_nil _)
  have herases : (w.backend.joinHolding crypto request outcomes w.heap).1.map Prod.snd = _ :=
    EasyTierRoomBackend.joinHolding_erases request outcomes w.heap
  unfold join
  generalize w.backend.joinHolding crypto request outcomes w.heap = result at hended herases
  obtain ⟨error | ⟨held, member, room⟩, heap⟩ := result
  · exact ⟨rfl, rfl, hended.alive, hended.next⟩
  · have hidle := (EasyTierRoomBackend.joinSession_cases herases.symm).1
    exact opened_of_started h hidle hended rfl rfl

theorem mem_stopSession {h : Heap ResourceKind} {r : Resource} (held : Held) :
    r ∈ (held.stopSession h).alive ↔ r ∈ h.alive ∧ r ∉ held.resources := by
  cases held with
  | host easytier server scaffoldingIngress minecraftIngress =>
    simp only [Held.stopSession, Held.resources, Heap.mem_stop, List.mem_cons, List.not_mem_nil, or_false, not_or, ne_eq]
    tauto
  | member easytier scaffoldingForward minecraftForward =>
    cases scaffoldingForward <;> cases minecraftForward <;>
      simp only [Held.stopSession, Held.resources, Heap.mem_stop, Option.toList, List.mem_cons, List.mem_append,
        List.not_mem_nil, or_false, not_or, ne_eq] <;> tauto

/-- **`leave` releases all of it.** -/
theorem Owning.leave_releases {w : OwningBackend} (h : w.Owning) :
    w.leave.heap.alive = [] ∧ w.leave.held = none ∧ w.leave.backend = w.backend.leave.1 := by
  unfold leave
  cases hheld : w.held with
  | none =>
    have hsession : w.backend.session = none := by
      have hstored := h.stored
      rw [hheld] at hstored
      simpa using hstored.symm
    exact ⟨(h.idle hsession).2, rfl, rfl⟩
  | some held =>
    refine ⟨List.eq_nil_iff_forall_not_mem.2 (fun r hr => ?_), rfl, rfl⟩
    obtain ⟨halive, hnot⟩ := (mem_stopSession held).1 hr
    have howned := h.alive r halive
    unfold owned at howned
    rw [hheld] at howned
    exact hnot howned

theorem owned_of_held {w w' : OwningBackend} (h : w'.held = w.held) : w'.owned = w.owned := by
  unfold owned
  rw [h]

theorem Owning.opened {w w' : OwningBackend} {result : Except RoomError BackendRoom} (h : w.Owning)
    (hopened : Opened w w' result) : w'.Owning := by
  cases result with
  | error error =>
    obtain ⟨hbackend, hheld, halive, hnext⟩ := hopened
    have howned := owned_of_held hheld
    refine ⟨by rw [hheld, hbackend]; exact h.stored, fun r hr => ?_, fun r hr => ?_⟩
    · rw [howned]
      exact h.alive r ((halive r).1 hr)
    · rw [howned] at hr
      exact Nat.lt_of_lt_of_le (h.named r hr) hnext
  | ok room =>
    obtain ⟨-, -, hheld, hsession, halive, hnamed, -⟩ := hopened
    exact ⟨hheld.trans hsession.symm, fun r hr => (halive r).1 hr, fun r hr => (hnamed r hr).2⟩

/-! ### A sequence of calls -/

theorem Owning.step {w : OwningBackend} (h : w.Owning) (crypto : Crypto) (call : RoomCall) : (w.step crypto call).Owning := by
  cases call with
  | initializeIdentity identity => exact ⟨h.stored, h.alive, h.named⟩
  | create request outcomes => exact h.opened (h.create_opened crypto request outcomes)
  | join request outcomes => exact h.opened (h.join_opened crypto request outcomes)
  | leave =>
    obtain ⟨halive, hheld, hbackend⟩ := h.leave_releases
    show w.leave.Owning
    have howned : w.leave.owned = [] := by
      unfold owned
      rw [hheld]
    refine ⟨by rw [hheld, hbackend]; rfl, fun r hr => ?_, fun r hr => ?_⟩
    · rw [halive] at hr
      cases hr
    · rw [howned] at hr
      cases hr
  | ends r => exact ⟨h.stored, fun x hx => h.alive x (Heap.mem_stop.1 hx).1, h.named⟩

theorem after_owning (crypto : Crypto) (calls : List RoomCall) : (after crypto calls).Owning := by
  suffices hfold : ∀ (calls : List RoomCall) (w : OwningBackend), w.Owning → (calls.foldl (OwningBackend.step crypto) w).Owning from
    hfold calls new owning_new
  intro calls
  induction calls with
  | nil => exact fun w h => h
  | cons call calls ih => exact fun w h => ih _ (h.step crypto call)

/-- **A session owns what lives**: after any sequence of calls, whatever the system came to in each, every process, server
and listener that is alive belongs to the stored session; a next `create` or `join` that fails leaves that as it was, one
that opens a room stores a session that owns everything it started, and `leave` releases all. -/
theorem session_owns_what_lives (crypto : Crypto) (calls : List RoomCall) :
    let w := after crypto calls
    (∀ r ∈ w.heap.alive, r ∈ w.owned) ∧
    (∀ request outcomes, Opened w (w.create crypto request outcomes).1 (w.create crypto request outcomes).2 ∧
      ((w.create crypto request outcomes).1.backend, (w.create crypto request outcomes).2) =
        w.backend.create crypto request outcomes) ∧
    (∀ request outcomes, Opened w (w.join crypto request outcomes).1 (w.join crypto request outcomes).2 ∧
      ((w.join crypto request outcomes).1.backend, (w.join crypto request outcomes).2) =
        w.backend.join crypto request outcomes) ∧
    w.leave.heap.alive = [] ∧ w.leave.held = none ∧ w.leave.backend = w.backend.leave.1 := by
  intro w
  have h : w.Owning := after_owning crypto calls
  exact ⟨h.alive, fun request outcomes => ⟨h.create_opened crypto request outcomes, create_refines crypto w request outcomes⟩,
    fun request outcomes => ⟨h.join_opened crypto request outcomes, join_refines crypto w request outcomes⟩, h.leave_releases⟩

-- a room owns four resources; one that is not published leaves nothing
example :
    let create := fun written => RoomCall.create ⟨"session-1", "127.0.0.1:25565", true, true⟩
      { binary := some "easytier-core", material := some (Vector.replicate 12 0), launch := .running
        server := ⟨0, .ok (), .ok ⟨40000, by decide⟩⟩, scaffoldingIngress := .ok (), minecraftIngress := .ok ()
        written, nowUnixSeconds := 1700000000 }
    let calls := fun written => after ⟨fun _ => Vector.replicate 32 0, fun _ _ => Vector.replicate 32 0⟩
      [.initializeIdentity [], create written]
    (calls (.ok ())).heap.alive.length = 4 ∧ (calls (.error "No space left on device (os error 28)")).heap.alive = [] := by
  decide

end OwningBackend

end Terracotta
