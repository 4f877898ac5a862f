import Terracotta.Backend
/-!
# The room service over its backend (`room/service.rs`, `network/backend.rs`)

The Helper's room is a `RoomService` and the `EasyTierRoomBackend` it asks, each with its own notion of an open room.  A
call of the service asks the backend what the system then comes to; between two calls the two notions are one.
-/
namespace Terracotta

open Net (SocketAddr)

structure LiveRoom where
  service : RoomService
  backend : EasyTierRoomBackend
deriving DecidableEq

namespace LiveRoom

variable (crypto : Crypto)

/-- `RoomService::default()`. -/
def new : LiveRoom := ⟨.new, .new⟩

def create (s : LiveRoom) (request : CreateRoomRequest) (outcomes : CreateOutcomes) :
    LiveRoom × Except RoomError RoomSnapshot :=
  match s.service.createBegin request with
  | .error error => (s, .error error)
  | .ok (service, request) =>
    let (backend, answer) := s.backend.create crypto request outcomes
    let (service, result) := service.openFinish .host (some request.gameSessionId) false answer
    (⟨service, backend⟩, result)

def join (s : LiveRoom) (request : JoinRoomRequest) (outcomes : JoinOutcomes) :
    LiveRoom × Except RoomError RoomSnapshot :=
  match s.service.joinBegin request with
  | .error error => (s, .error error)
  | .ok (service, request) =>
    let (backend, answer) := s.backend.join crypto request outcomes
    let (service, result) := service.openFinish .member request.gameSessionId true answer
    (⟨service, backend⟩, result)

def pollAndEmit (s : LiveRoom) (outcomes : RefreshOutcomes) : LiveRoom :=
  { s with service := s.service.pollAndEmit (s.backend.refresh outcomes) }

def status (s : LiveRoom) (outcomes : RefreshOutcomes) : LiveRoom × RoomSnapshot :=
  let s := s.pollAndEmit outcomes
  (s, s.service.state)

def setLanAddress (s : LiveRoom) (request : SetLanAddressRequest) (outcomes : LanOutcomes) (refresh : RefreshOutcomes) :
    LiveRoom × Except RoomError RoomSnapshot :=
  match validateLoopbackAddress request.lanAddress with
  | .error error => (s, .error error)
  | .ok address =>
    if s.service.state.state ≠ .connected ∨ s.service.state.role ≠ .host then
      (s, .error ⟨"room.not-host", "Only a connected room host can change the LAN address.", false⟩)
    else match s.backend.setLanAddress crypto address outcomes with
      | (backend, .error error) => ({ s with backend }, .error error)
      | (backend, .ok ()) =>
        let (s, snapshot) := LiveRoom.status { s with backend } refresh
        (s, .ok snapshot)

/-- `diagnose`; the backend's own diagnosis is asked only behind a refresh without a network. -/
def diagnose (s : LiveRoom) (refresh again : RefreshOutcomes) : LiveRoom × Except RoomError NetworkStatus :=
  match s.service.diagnoseBegin with
  | .error error => (s, .error error)
  | .ok (service, previous) =>
    let (service, result) :=
      service.diagnoseFinish previous ((s.backend.refresh refresh).toOption.getD {}) (s.backend.diagnose again)
    ({ s with service }, result)

def leave (s : LiveRoom) : LiveRoom × Except RoomError RoomSnapshot :=
  if s.service.state.state = .idle then (s, .ok s.service.state)
  else if s.service.state.state = .leaving then (s, .error RoomError.busy)
  else
    let (backend, answer) := s.backend.leave
    let (service, result) := s.service.leave answer
    (⟨service, backend⟩, result)

end LiveRoom

/-- A call of the room service with what the system comes to, or a change of a host's roster between two calls. -/
inductive LiveCall where
  | initializeIdentity (identity : List UInt8)
  | create (request : CreateRoomRequest) (outcomes : CreateOutcomes)
  | join (request : JoinRoomRequest) (outcomes : JoinOutcomes)
  | setLanAddress (request : SetLanAddressRequest) (outcomes : LanOutcomes) (refresh : RefreshOutcomes)
  | diagnose (refresh again : RefreshOutcomes)
  | leave
  | status (outcomes : RefreshOutcomes)
  | pollAndEmit (outcomes : RefreshOutcomes)
  | playerPing (profile : PlayerProfile) (now : Nat)
  | cleanup (now : Nat)

namespace LiveRoom

variable (crypto : Crypto)

def step (s : LiveRoom) : LiveCall → LiveRoom
  | .initializeIdentity identity => { s with backend := s.backend.setIdentity identity }
  | .create request outcomes => (s.create crypto request outcomes).1
  | .join request outcomes => (s.join crypto request outcomes).1
  | .setLanAddress request outcomes refresh => (s.setLanAddress crypto request outcomes refresh).1
  | .diagnose refresh again => (s.diagnose refresh again).1
  | .leave => s.leave.1
  | .status outcomes => (s.status outcomes).1
  | .pollAndEmit outcomes => s.pollAndEmit outcomes
  | .playerPing profile now =>
    { s with backend := s.backend.updateContext (fun c => (c.recordGuest profile now).toOption.getD c) }
  | .cleanup now => { s with backend := s.backend.updateContext (fun c => c.removeStaleGuests now) }

/-- The room after calls run one at a time. -/
def runCalls (s : LiveRoom) (calls : List LiveCall) : LiveRoom := calls.foldl (step crypto) s

/-! ## The service runs as it does over any backend -/

variable {crypto : Crypto} {s : LiveRoom}

/-- **A call of the live room is a call of the service** with this backend's answers, or none. -/
theorem step_service (crypto : Crypto) (s : LiveRoom) (call : LiveCall) : ∃ calls, (s.step crypto call).service = s.service.runCalls calls := by
  cases call with
  | initializeIdentity _ | playerPing _ _ | cleanup _ => exact ⟨[], rfl⟩
  | create request outcomes =>
    cases hbegin : s.service.createBegin request with
    | error error => exact ⟨[], by simp only [step, create, hbegin]; rfl⟩
    | ok begun =>
      refine ⟨[.create request (s.backend.create crypto begun.2 outcomes).2], ?_⟩
      simp only [step, create, hbegin, RoomService.runCalls, RoomService.step, RoomService.create, List.foldl_cons,
        List.foldl_nil]
  | join request outcomes =>
    cases hbegin : s.service.joinBegin request with
    | error error => exact ⟨[], by simp only [step, join, hbegin]; rfl⟩
    | ok begun =>
      refine ⟨[.join request (s.backend.join crypto begun.2 outcomes).2], ?_⟩
      simp only [step, join, hbegin, RoomService.runCalls, RoomService.step, RoomService.join, List.foldl_cons,
        List.foldl_nil]
  | setLanAddress request outcomes refresh =>
    cases haddress : validateLoopbackAddress request.lanAddress with
    | error error => exact ⟨[], by simp only [step, setLanAddress, haddress]; rfl⟩
    | ok address =>
      refine ⟨[.setLanAddress request (s.backend.setLanAddress crypto address outcomes).2
        ((s.backend.setLanAddress crypto address outcomes).1.refresh refresh)], ?_⟩
      show (s.setLanAddress crypto request outcomes refresh).1.service = (s.service.setLanAddress request _ _).1
      unfold setLanAddress RoomService.setLanAddress
      simp only [haddress]
      split
      · rfl
      · rcases s.backend.setLanAddress crypto address outcomes with ⟨backend, error | ⟨⟩⟩ <;> rfl
  | diagnose refresh again =>
    refine ⟨[.diagnose (s.backend.refresh refresh) (s.backend.diagnose again)], ?_⟩
    show (s.diagnose refresh again).1.service = (s.service.diagnose _ _).1
    unfold diagnose RoomService.diagnose
    cases s.service.diagnoseBegin with
    | error error => rfl
    | ok begun => rfl
  | leave =>
    refine ⟨[.leave (.ok ())], ?_⟩
    show s.leave.1.service = (s.service.leave (.ok ())).1
    unfold leave RoomService.leave
    split
    · rfl
    · split <;> rfl
  | status outcomes => exact ⟨[.status (s.backend.refresh outcomes)], rfl⟩
  | pollAndEmit outcomes => exact ⟨[.pollAndEmit (s.backend.refresh outcomes)], rfl⟩

theorem step_settled (crypto : Crypto) (h : s.service.Settled) (call : LiveCall) : (s.step crypto call).service.Settled := by
  obtain ⟨calls, hcalls⟩ := step_service crypto s call
  rw [hcalls]
  exact runCalls_settled_of calls h

/-! ## The two notions of an open room are one -/

def Active (state : RoomState) : Prop := state = .connected ∨ state = .reconnecting

theorem not_active_idle : ¬ Active .idle := by
  rintro (h | h) <;> cases h

theorem not_active_faulted : ¬ Active .faulted := by
  rintro (h | h) <;> cases h

/-- What is held of a session: the credentials of a host, and none of a member. -/
def held (s : LiveRoom) : Option (Option RoomCredentials) :=
  s.backend.session.map (fun session => match session with
    | .host host => some host.credentials
    | .member _ => none)

/-- **What holds between two calls**: a room is active with a session, of its role and with its code. -/
structure Coupled (s : LiveRoom) : Prop where
  settled : s.service.Settled
  active : Active s.service.state.state ↔ s.held.isSome = true
  host : ∀ credentials, s.held = some (some credentials) →
    s.service.state.role = .host ∧ s.service.state.roomCode = some credentials.roomCode
  member : s.held = some none → s.service.state.role = .member

/-- Two snapshots that a session is held against alike. -/
structure SameRoom (a b : RoomSnapshot) : Prop where
  active : Active a.state ↔ Active b.state
  role : a.role = b.role
  roomCode : a.roomCode = b.roomCode

theorem SameRoom.refl (a : RoomSnapshot) : SameRoom a a := ⟨Iff.rfl, rfl, rfl⟩

/-- **A call that changes neither room nor session keeps them together.** -/
theorem Coupled.same (h : s.Coupled) {t : LiveRoom} (hsettled : t.service.Settled)
    (hroom : SameRoom t.service.state s.service.state) (hheld : t.held = s.held) : t.Coupled := by
  obtain ⟨hactive, hrole, hcode⟩ := hroom
  refine ⟨hsettled, ?_, ?_, ?_⟩
  · rw [hactive, hheld]
    exact h.active
  · rw [hrole, hcode, hheld]
    exact h.host
  · rw [hrole, hheld]
    exact h.member

/-- A room that is not active, without a session. -/
theorem coupled_of_none {t : LiveRoom} (hsettled : t.service.Settled) (hstate : ¬ Active t.service.state.state)
    (hsession : t.backend.session = none) : t.Coupled := by
  have hheld : t.held = none := by
    unfold held
    rw [hsession]
    rfl
  refine ⟨hsettled, ⟨fun h => absurd h hstate, fun h => ?_⟩, fun credentials h => ?_, fun h => ?_⟩
  · rw [hheld] at h
    cases h
  · rw [hheld] at h
    cases h
  · rw [hheld] at h
    cases h

/-- An idle or faulted room has no session. -/
theorem Coupled.noSession (h : s.Coupled) (hstate : ¬ Active s.service.state.state) : s.backend.session = none := by
  cases hsession : s.backend.session with
  | none => rfl
  | some session =>
    have hheld : s.held.isSome = true := by
      unfold held
      rw [hsession]
      rfl
    exact absurd (h.active.2 hheld) hstate

/-! ### The calls -/

/-- A refresh keeps the room, whatever it reports. -/
theorem applyNetwork_sameRoom (state : RoomSnapshot) (network : NetworkStatus) :
    SameRoom (applyNetwork state network).1 state := by
  unfold applyNetwork
  simp only
  split
  · rename_i hlost
    have hconnected : state.state = .connected := by simpa using (Bool.and_eq_true_iff.1 hlost).2
    exact ⟨⟨fun _ => Or.inl hconnected, fun _ => Or.inr rfl⟩, rfl, rfl⟩
  · split
    · rename_i hback
      have hreconnecting : state.state = .reconnecting := by simpa using (Bool.and_eq_true_iff.1 hback).2
      exact ⟨⟨fun _ => Or.inr hreconnecting, fun _ => Or.inl rfl⟩, rfl, rfl⟩
    · exact ⟨Iff.rfl, rfl, rfl⟩

theorem pollAndEmit_sameRoom (svc : RoomService) (refresh : Except RoomError BackendRefresh) :
    SameRoom (svc.pollAndEmit refresh).state svc.state := by
  unfold RoomService.pollAndEmit
  cases refresh with
  | error error => exact SameRoom.refl _
  | ok refresh =>
    have hpoll : SameRoom (pollState svc.state refresh).1 svc.state := by
      unfold pollState
      cases refresh.network with
      | none => exact ⟨Iff.rfl, rfl, rfl⟩
      | some network =>
        obtain ⟨hactive, hrole, hcode⟩ := applyNetwork_sameRoom svc.state network
        exact ⟨hactive, hrole, hcode⟩
    simp only
    split
    · cases refresh.members with
      | none => exact hpoll
      | some members => exact hpoll
    · exact SameRoom.refl _

theorem held_updateContext (service : RoomService) (backend : EasyTierRoomBackend)
    (update : ServerContext → ServerContext) :
    held ⟨service, backend.updateContext update⟩ = held ⟨service, backend⟩ := by
  unfold held EasyTierRoomBackend.updateContext
  cases hsession : backend.session with
  | none => simp only [hsession]
  | some session =>
    cases session with
    | host host => rfl
    | member member => simp only [hsession]

/-- `set_lan_address` keeps the session and its credentials, on every path. -/
theorem held_setLanAddress (crypto : Crypto) (service : RoomService) (backend : EasyTierRoomBackend) (address : SocketAddr)
    (outcomes : LanOutcomes) :
    held ⟨service, (backend.setLanAddress crypto address outcomes).1⟩ = held ⟨service, backend⟩ := by
  unfold held EasyTierRoomBackend.setLanAddress
  cases hsession : backend.session with
  | none => simp only [hsession]
  | some session =>
    cases session with
    | member member => simp only [hsession]
    | host host =>
      simp only
      split
      · simp only [hsession]
      · cases hreplaced : backend.replaceServer crypto host address outcomes with
        | error error => rfl
        | ok replaced =>
          have hcredentials := EasyTierRoomBackend.replaceServer_ok hreplaced
          simp only [Option.map_some, hcredentials]

/-- **What the service makes of a room that this backend opens**: it is accepted as it is. -/
theorem openFinish_accepted (svc : RoomService) (role : RoomRole) (gameSessionId : Option String) {require : Bool}
    {room : BackendRoom} (hroom : validateBackendRoom room require = .ok room) :
    (svc.openFinish role gameSessionId require (.ok room)).1.state.state = .connected ∧
      (svc.openFinish role gameSessionId require (.ok room)).1.state.role = role ∧
      (svc.openFinish role gameSessionId require (.ok room)).1.state.roomCode = some room.roomCode := by
  unfold RoomService.openFinish
  simp only [Except.bind, hroom]
  exact ⟨rfl, rfl, rfl⟩

theorem validateBackendRoom_host {room : BackendRoom} (hcode : CanonicalRoomCode room.roomCode)
    (haddress : room.localAddress = none) : validateBackendRoom room false = .ok room := by
  unfold validateBackendRoom
  rw [normalizeRoomCode_canonical hcode, haddress]
  cases room
  subst haddress
  rfl

theorem validateBackendRoom_member {room : BackendRoom} (h : EasyTierRoomBackend.Reachable room) :
    validateBackendRoom room true = .ok room := by
  obtain ⟨hcode, port, hport, haddress⟩ := h
  unfold validateBackendRoom
  rw [normalizeRoomCode_canonical hcode, haddress]
  simp only [validateOption, validateLoopbackAddress_loopback hport]
  cases room
  subst haddress
  rfl

theorem create_coupled (h : s.Coupled) (request : CreateRoomRequest) (outcomes : CreateOutcomes)
    (hsettled : (s.create crypto request outcomes).1.service.Settled) :
    (s.create crypto request outcomes).1.Coupled := by
  unfold create at hsettled ⊢
  cases hbegin : s.service.createBegin request with
  | error error => exact h
  | ok begun =>
    obtain ⟨service, request⟩ := begun
    obtain ⟨hidle, -, -⟩ := createBegin_ok hbegin
    have hnone : s.backend.session = none := h.noSession (by rw [hidle]; exact not_active_idle)
    simp only [hbegin] at hsettled ⊢
    unfold EasyTierRoomBackend.create at hsettled ⊢
    cases hopened : s.backend.createSession crypto request outcomes with
    | error error =>
      simp only [hopened] at hsettled ⊢
      exact coupled_of_none hsettled not_active_faulted hnone
    | ok opened =>
      obtain ⟨host, room⟩ := opened
      obtain ⟨hcode, hcanonical, haddress⟩ := EasyTierRoomBackend.createSession_ok hopened
      simp only [hopened] at hsettled ⊢
      obtain ⟨hstate, hrole, hroomCode⟩ := openFinish_accepted service .host (some request.gameSessionId)
        (validateBackendRoom_host hcanonical haddress)
      refine ⟨hsettled, ⟨fun _ => rfl, fun _ => Or.inl hstate⟩, fun credentials hheld => ?_, fun hheld => ?_⟩
      · have hsame : host.credentials = credentials := Option.some.inj (Option.some.inj hheld)
        rw [← hsame, ← hcode]
        exact ⟨hrole, hroomCode⟩
      · cases Option.some.inj hheld

theorem join_coupled (h : s.Coupled) (request : JoinRoomRequest) (outcomes : JoinOutcomes)
    (hsettled : (s.join crypto request outcomes).1.service.Settled) : (s.join crypto request outcomes).1.Coupled := by
  unfold join at hsettled ⊢
  cases hbegin : s.service.joinBegin request with
  | error error => exact h
  | ok begun =>
    obtain ⟨service, request⟩ := begun
    obtain ⟨hidle, -, -⟩ := joinBegin_ok hbegin
    have hnone : s.backend.session = none := h.noSession (by rw [hidle]; exact not_active_idle)
    simp only [hbegin] at hsettled ⊢
    unfold EasyTierRoomBackend.join at hsettled ⊢
    cases hopened : s.backend.joinSession crypto request outcomes with
    | error error =>
      simp only [hopened] at hsettled ⊢
      exact coupled_of_none hsettled not_active_faulted hnone
    | ok opened =>
      obtain ⟨member, room⟩ := opened
      have hreachable := EasyTierRoomBackend.joinSession_ok hopened
      simp only [hopened] at hsettled ⊢
      obtain ⟨hstate, hrole, -⟩ := openFinish_accepted service .member request.gameSessionId
        (validateBackendRoom_member hreachable)
      refine ⟨hsettled, ⟨fun _ => rfl, fun _ => Or.inl hstate⟩, fun credentials hheld => ?_, fun _ => hrole⟩
      cases Option.some.inj hheld

theorem setLanAddress_coupled (h : s.Coupled) (request : SetLanAddressRequest) (outcomes : LanOutcomes)
    (refresh : RefreshOutcomes) (hsettled : (s.setLanAddress crypto request outcomes refresh).1.service.Settled) :
    (s.setLanAddress crypto request outcomes refresh).1.Coupled := by
  unfold setLanAddress at hsettled ⊢
  cases haddress : validateLoopbackAddress request.lanAddress with
  | error error => exact h
  | ok address =>
    simp only [haddress] at hsettled ⊢
    split
    · exact h
    · rename_i hhost
      rw [if_neg hhost] at hsettled
      have hheld := held_setLanAddress crypto s.service s.backend address outcomes
      cases hset : s.backend.setLanAddress crypto address outcomes with
      | mk backend answer =>
        rw [hset] at hheld
        simp only [hset] at hsettled ⊢
        cases answer with
        | error error => exact h.same hsettled (SameRoom.refl _) hheld
        | ok done => exact h.same hsettled (pollAndEmit_sameRoom s.service _) hheld

/-- **An active room has a session, and with it a network: a diagnosis comes back.** -/
theorem diagnose_coupled (h : s.Coupled) (refresh again : RefreshOutcomes)
    (hsettled : (s.diagnose refresh again).1.service.Settled) : (s.diagnose refresh again).1.Coupled := by
  unfold diagnose RoomService.diagnoseBegin at hsettled ⊢
  by_cases hstate : s.service.state.state ≠ .connected ∧ s.service.state.state ≠ .reconnecting
  · rw [if_pos hstate]
    exact h
  · rw [if_neg hstate] at hsettled ⊢
    have hactive : Active s.service.state.state := by
      by_contra hnot
      exact hstate (not_or.1 hnot)
    have hsession : s.backend.session.isSome = true := by
      have hheld := h.active.1 hactive
      unfold held at hheld
      rwa [Option.isSome_map] at hheld
    obtain ⟨answer, hanswer, hnetwork⟩ := EasyTierRoomBackend.refresh_network hsession refresh
    obtain ⟨network, hnetwork⟩ := Option.isSome_iff_exists.1 hnetwork
    rw [hanswer] at hsettled ⊢
    unfold RoomService.diagnoseFinish at hsettled ⊢
    simp only [Except.toOption, Option.getD_some, hnetwork] at hsettled ⊢
    exact h.same hsettled ⟨Iff.rfl, rfl, rfl⟩ rfl

theorem leave_coupled (h : s.Coupled) (hsettled : s.leave.1.service.Settled) : s.leave.1.Coupled := by
  unfold leave at hsettled ⊢
  split
  · exact h
  · split
    · exact h
    · rename_i hidle hleaving
      rw [if_neg hidle, if_neg hleaving] at hsettled
      refine coupled_of_none hsettled ?_ rfl
      have hleft : (s.service.leave (.ok ())).1.state.state = .idle := by
        unfold RoomService.leave
        rw [if_neg hidle, if_neg hleaving]
        rfl
      show ¬ Active (s.service.leave (.ok ())).1.state.state
      rw [hleft]
      exact not_active_idle

/-- **One call keeps room and session together.** -/
theorem step_coupled (h : s.Coupled) (call : LiveCall) : (s.step crypto call).Coupled := by
  have hsettled := step_settled crypto h.settled call
  cases call with
  | initializeIdentity identity => exact h.same h.settled (SameRoom.refl _) rfl
  | create request outcomes => exact create_coupled h request outcomes hsettled
  | join request outcomes => exact join_coupled h request outcomes hsettled
  | setLanAddress request outcomes refresh => exact setLanAddress_coupled h request outcomes refresh hsettled
  | diagnose refresh again => exact diagnose_coupled h refresh again hsettled
  | leave => exact leave_coupled h hsettled
  | status outcomes => exact h.same hsettled (pollAndEmit_sameRoom s.service _) rfl
  | pollAndEmit outcomes => exact h.same hsettled (pollAndEmit_sameRoom s.service _) rfl
  | playerPing profile now => exact h.same hsettled (SameRoom.refl _) (held_updateContext s.service s.backend _)
  | cleanup now => exact h.same hsettled (SameRoom.refl _) (held_updateContext s.service s.backend _)

theorem coupled_new : LiveRoom.new.Coupled := coupled_of_none settled_new not_active_idle rfl

theorem runCalls_coupled : ∀ {s : LiveRoom} (calls : List LiveCall), s.Coupled → (s.runCalls crypto calls).Coupled
  | _, [], h => h
  | _, call :: calls, h => runCalls_coupled calls (step_coupled h call)

/-- **Between calls the service and its backend agree on the room**: for every sequence of calls and every outcome of
what they ask of the system. -/
theorem service_and_backend_agree (crypto : Crypto) (calls : List LiveCall) :
    let s := LiveRoom.new.runCalls crypto calls
    ((s.service.state.state = .connected ∨ s.service.state.state = .reconnecting) ↔ s.backend.session.isSome = true) ∧
    (∀ session, s.backend.session = some session →
      ((∃ host, session = .host host) ↔ s.service.state.role = .host) ∧
      ((∃ member, session = .member member) ↔ s.service.state.role = .member)) ∧
    (∀ host, s.backend.session = some (.host host) →
      s.service.state.roomCode = some host.credentials.roomCode) ∧
    (s.service.state.state = .idle ∨ s.service.state.state = .faulted → s.backend.session = none) := by
  intro s
  have h : s.Coupled := runCalls_coupled calls coupled_new
  have hsome : s.held.isSome = s.backend.session.isSome := Option.isSome_map
  refine ⟨?_, fun session hsession => ?_, fun host hsession => ?_, fun hstate => h.noSession ?_⟩
  · rw [← hsome]
    exact h.active
  · cases session with
    | host host =>
      have hheld : s.held = some (some host.credentials) := by
        unfold held
        rw [hsession]
        rfl
      have hrole := (h.host _ hheld).1
      refine ⟨⟨fun _ => hrole, fun _ => ⟨host, rfl⟩⟩, ?_, fun hmember => ?_⟩
      · rintro ⟨member, hmember⟩
        cases hmember
      · rw [hrole] at hmember
        cases hmember
    | member member =>
      have hheld : s.held = some none := by
        unfold held
        rw [hsession]
        rfl
      have hrole := h.member hheld
      refine ⟨⟨?_, fun hhost => ?_⟩, fun _ => hrole, fun _ => ⟨member, rfl⟩⟩
      · rintro ⟨host, hhost⟩
        cases hhost
      · rw [hrole] at hhost
        cases hhost
  · have hheld : s.held = some (some host.credentials) := by
      unfold held
      rw [hsession]
      rfl
    exact (h.host _ hheld).2
  · rcases hstate with hstate | hstate
    · rw [hstate]
      exact not_active_idle
    · rw [hstate]
      exact not_active_faulted

/-- A system in which everything `create` asks for succeeds. -/
def allGood : CreateOutcomes :=
  { binary := some "easytier-core", material := some (Vector.replicate 12 0), launch := .running
    server := ⟨0, .ok (), .ok ⟨40000, by decide⟩⟩, scaffoldingIngress := .ok (), minecraftIngress := .ok ()
    written := .ok (), nowUnixSeconds := 1700000000 }

-- a room that is created and then loses its network keeps its session
example :
    let s := LiveRoom.new.runCalls ⟨fun _ => Vector.replicate 32 0, fun _ _ => Vector.replicate 32 0⟩
      [.initializeIdentity [], .create ⟨"session-1", "127.0.0.1:25565", true, true⟩ allGood,
        .status ⟨⟨none, none⟩, none⟩]
    s.service.state.state = .reconnecting ∧ s.backend.session.isSome = true := by decide

end LiveRoom

end Terracotta
