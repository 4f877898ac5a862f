import Terracotta.LanAddress
/-!
# What a run leaves in the discovery directory (`lib.rs`, `ipc/session.rs`, `network/backend.rs`)

A room that is created is published in a file, and the file is removed when the room is left.  The Helper ends in four
ways, three of them without a word to the room: its sockets and processes go with it, and its files do not.  Here are the
files a run has written, beside its room, through all calls and up to the end.
-/
namespace Terracotta

open Net (SocketAddr)
open Run (Along run)

/-- `ExitReason`. -/
inductive ExitReason where
  | shutdownRequested
  | peerDisconnected
  | parentExited
  | interrupted
deriving DecidableEq

/-! ## The publication of a room -/

def HostSession.advertisement (host : HostSession) (nowUnixSeconds : Nat) : RoomEndpointAdvertisement where
  roomCode := host.credentials.roomCode
  scaffolding := host.scaffoldingAddr.toString
  minecraft := host.minecraft.toString
  publishedUnixSeconds := nowUnixSeconds

namespace EasyTierRoomBackend

/-- `create` up to its publication. -/
def openHost (crypto : Crypto) (b : EasyTierRoomBackend) (request : CreateRoomRequest) (outcomes : CreateOutcomes) :
    Except RoomError (HostSession × BackendRoom) := do
  b.ensureIdle
  let identity ← b.requireIdentity
  let binary ← requireBinary outcomes.binary
  let minecraft ← validateLoopbackAddress request.lanAddress
  let credentials ← RoomCredentials.generate crypto outcomes.material
  let easytier ← startEasytier binary (rpcPortalForRoom crypto credentials.roomCode) outcomes.launch
  let (context, scaffoldingAddr) ← startServer crypto "bind" identity minecraft.port outcomes.server
  startIngress "bind" "Scaffolding" outcomes.scaffoldingIngress
  startIngress "bind" "Minecraft" outcomes.minecraftIngress
  return (
    { credentials, endpoints := .fromRoomCode crypto credentials.roomCode, easytier, scaffoldingContext := context
      scaffoldingAddr, serving := true, minecraft, preferDirect := request.preferDirect
      allowRelay := request.allowRelay },
    { roomCode := credentials.roomCode, localAddress := none
      network := hostNetworkStatus request.preferDirect request.allowRelay
      members := [{ id := machineIdFromIdentity crypto identity, displayName := "Host", connectionMode := .direct
                    roundTripTimeMilliseconds := some 0, packetLossPercent := some F64.zero }] })

theorem createSession_eq (crypto : Crypto) (b : EasyTierRoomBackend) (request : CreateRoomRequest)
    (outcomes : CreateOutcomes) : b.createSession crypto request outcomes = (do
      let (host, room) ← b.openHost crypto request outcomes
      publishLocalEndpoint (host.advertisement outcomes.nowUnixSeconds) outcomes.written
      return (host, room)) := by
  unfold createSession openHost
  simp only [bind_assoc, pure_bind]
  rfl

end EasyTierRoomBackend

/-! ## A run -/

/-- A Helper with what it has written to the discovery directory, by the names of the files. -/
structure HelperRun where
  live : LiveRoom
  files : List Char → EndpointFile
  exited : Option ExitReason

inductive RunLabel where
  -- a request or a tick of the poll; the publication is what one in it comes to
  | call (call : LiveCall) (publication : Publication)
  -- a join, of this Helper or another, removes a file that is six hours old
  | expire (path : List Char)
  | exit (reason : ExitReason)
  -- the parent exits, or an interrupt comes, where `create` has published and not yet stored its session
  | exitInCreate (request : CreateRoomRequest) (outcomes : CreateOutcomes) (reason : ExitReason)
  -- and where `leave` has taken the session and not yet removed the file
  | exitInLeave (reason : ExitReason)

def LiveCall.publishing (publication : Publication) : LiveCall → LiveCall
  | .create request outcomes => .create request { outcomes with written := publication.written }
  | .setLanAddress request outcomes refresh =>
    .setLanAddress request { outcomes with written := publication.written } refresh
  | call => call

namespace HelperRun

def new : HelperRun := ⟨.new, fun _ => .absent, none⟩

/-- `publish_local_endpoint`. -/
def publish (files : List Char → EndpointFile) (advertisement : RoomEndpointAdvertisement) (publication : Publication) :
    List Char → EndpointFile :=
  match advertisementPath advertisement.roomCode with
  | .error _ => files
  | .ok path => Function.update files path (publishFile advertisement (files path) publication).1

/-- `clear_local_endpoint`, where the file is removed. -/
def clear (files : List Char → EndpointFile) (roomCode : String) : List Char → EndpointFile :=
  match advertisementPath roomCode with
  | .error _ => files
  | .ok path => Function.update files path .absent

section Step

variable (crypto : Crypto)

/-- The session a `create` opens, up to its publication. -/
def opens (s : HelperRun) (request : CreateRoomRequest) (outcomes : CreateOutcomes) : Option HostSession :=
  match s.live.service.createBegin request with
  | .error _ => none
  | .ok (_, request) => (s.live.backend.openHost crypto request outcomes).toOption.map Prod.fst

/-- The session a `set_lan_address` has before it publishes. -/
def moves (s : HelperRun) (request : SetLanAddressRequest) (outcomes : LanOutcomes) : Option HostSession :=
  match validateLoopbackAddress request.lanAddress with
  | .error _ => none
  | .ok address =>
    if s.live.service.state.state ≠ .connected ∨ s.live.service.state.role ≠ .host then none
    else match s.live.backend.session with
      | some (.host host) => (s.live.backend.replaceServer crypto host address outcomes).toOption
      | _ => none

/-- The host session a `leave` stops. -/
def stops (s : HelperRun) : Option HostSession :=
  if s.live.service.state.state = .idle ∨ s.live.service.state.state = .leaving then none
  else match s.live.backend.session with
    | some (.host host) => some host
    | _ => none

/-- The files behind a call. -/
def filesAfter (s : HelperRun) (publication : Publication) : LiveCall → List Char → EndpointFile
  | .create request outcomes => match s.opens crypto request outcomes with
    | some host => publish s.files (host.advertisement outcomes.nowUnixSeconds) publication
    | none => s.files
  | .setLanAddress request outcomes _ => match s.moves crypto request outcomes with
    | some host => publish s.files (host.advertisement outcomes.nowUnixSeconds) publication
    | none => s.files
  | .leave => match s.stops with
    | some host => clear s.files host.credentials.roomCode
    | none => s.files
  | _ => s.files

def step (s : HelperRun) (l : RunLabel) : Option HelperRun :=
  if s.exited.isSome then none
  else match l with
    | .call call publication =>
      some { s with
        live := s.live.step crypto (call.publishing publication), files := s.filesAfter crypto publication call }
    | .expire path => some { s with files := Function.update s.files path .absent }
    | .exit reason => some { s with exited := some reason }
    | .exitInCreate request outcomes reason => match s.opens crypto request outcomes with
      | some host => some { s with
          files := publish s.files (host.advertisement outcomes.nowUnixSeconds) .done, exited := some reason }
      | none => none
    | .exitInLeave reason => match s.stops with
      | some _ => some { s with live := { s.live with backend := s.live.backend.leave.1 }, exited := some reason }
      | none => none

/-- **Where a step leaves no file behind**: no exit with a host's session, or between a file and its session, and no file
that is written and then given up. -/
def Clears (s : HelperRun) : RunLabel → Prop
  | .call (.create request outcomes) publication =>
    ∀ error, publication = .unrestricted error → s.opens crypto request outcomes = none
  | .exit _ => ∀ host, s.live.backend.session ≠ some (.host host)
  | .exitInCreate request outcomes _ => s.opens crypto request outcomes = none
  | .exitInLeave _ => s.stops = none
  | _ => True

end Step

/-- No advertisement of this run is in the directory. -/
def Cleared (s : HelperRun) : Prop := ∀ path advertisement, s.files path ≠ .whole advertisement

/-! ## The session behind a call -/

variable {crypto : Crypto}

theorem held_iff {room : LiveRoom} {credentials : RoomCredentials} : room.held = some (some credentials) ↔
    ∃ host, room.backend.session = some (.host host) ∧ host.credentials = credentials := by
  unfold LiveRoom.held
  cases hsession : room.backend.session with
  | none => simp
  | some session => cases session <;> simp

theorem held_of_session {room room' : LiveRoom} (h : room'.backend.session = room.backend.session) :
    room'.held = room.held := by
  unfold LiveRoom.held
  rw [h]

theorem held_none {room : LiveRoom} (h : room.backend.session = none) (credentials : RoomCredentials) :
    room.held ≠ some (some credentials) := by
  intro hheld
  obtain ⟨host, hhost, -⟩ := held_iff.1 hheld
  rw [h] at hhost
  cases hhost

theorem openHost_idle {b : EasyTierRoomBackend} {request : CreateRoomRequest} {outcomes : CreateOutcomes}
    {opened : HostSession × BackendRoom} (h : b.openHost crypto request outcomes = .ok opened) : b.session = none := by
  unfold EasyTierRoomBackend.openHost at h
  obtain ⟨u, hidle, -⟩ := of_bind_ok h
  exact EasyTierRoomBackend.ensureIdle_ok hidle

/-- **What a create leaves of a session**: the one it had where it opens none, and the opened one behind its publication. -/
theorem create_session {s : HelperRun} {request : CreateRoomRequest} {outcomes : CreateOutcomes} :
    match s.opens crypto request outcomes with
    | none => (s.live.create crypto request outcomes).1.backend = s.live.backend
    | some host => s.live.backend.session = none ∧
      (s.live.create crypto request outcomes).1.backend.session =
        match publishLocalEndpoint (host.advertisement outcomes.nowUnixSeconds) outcomes.written with
        | .error _ => none
        | .ok _ => some (.host host) := by
  unfold opens LiveRoom.create
  cases s.live.service.createBegin request with
  | error e => rfl
  | ok begun =>
    obtain ⟨service, request⟩ := begun
    simp only
    unfold EasyTierRoomBackend.create
    rw [EasyTierRoomBackend.createSession_eq]
    cases hopened : s.live.backend.openHost crypto request outcomes with
    | error e => rfl
    | ok opened =>
      obtain ⟨host, room⟩ := opened
      have hidle := openHost_idle hopened
      simp only [bind, Except.bind, Except.toOption, Option.map_some]
      refine ⟨hidle, ?_⟩
      cases publishLocalEndpoint (host.advertisement outcomes.nowUnixSeconds) outcomes.written with
      | error e => exact hidle
      | ok u => rfl

theorem join_session {room : LiveRoom} {request : JoinRoomRequest} {outcomes : JoinOutcomes} :
    (room.join crypto request outcomes).1.backend = room.backend ∨ room.backend.session = none := by
  unfold LiveRoom.join
  cases room.service.joinBegin request with
  | error e => exact Or.inl rfl
  | ok begun =>
    obtain ⟨service, request⟩ := begun
    simp only
    unfold EasyTierRoomBackend.join
    cases hjoined : room.backend.joinSession crypto request outcomes with
    | error e => exact Or.inl rfl
    | ok joined =>
      obtain ⟨member, room⟩ := joined
      exact Or.inr (EasyTierRoomBackend.joinSession_cases hjoined).1

theorem setLanAddress_held {room : LiveRoom} {request : SetLanAddressRequest} {outcomes : LanOutcomes}
    {refresh : RefreshOutcomes} : (room.setLanAddress crypto request outcomes refresh).1.held = room.held := by
  unfold LiveRoom.setLanAddress
  cases validateLoopbackAddress request.lanAddress with
  | error e => rfl
  | ok address =>
    simp only
    split
    · rfl
    · have hheld := LiveRoom.held_setLanAddress crypto room.service room.backend address outcomes
      rcases hcall : room.backend.setLanAddress crypto address outcomes with ⟨backend, error | ⟨⟩⟩
      · rw [hcall] at hheld
        exact hheld
      · rw [hcall] at hheld
        exact hheld

theorem validateLoopbackAddress_ok {value : String} {address : SocketAddr}
    (h : validateLoopbackAddress value = .ok address) : ¬ (!address.ip.isLoopback || address.port == 0) = true := by
  unfold validateLoopbackAddress at h
  split at h
  · cases h
  · split at h
    · cases h
    · rename_i hvalid
      cases h
      exact hvalid

/-- The session `set_lan_address` publishes for is the one it leaves. -/
theorem moves_session {s : HelperRun} {request : SetLanAddressRequest} {outcomes : LanOutcomes} {host : HostSession}
    (h : s.moves crypto request outcomes = some host) (refresh : RefreshOutcomes) :
    (s.live.setLanAddress crypto request outcomes refresh).1.backend.session = some (.host host) := by
  unfold moves at h
  unfold LiveRoom.setLanAddress
  cases haddress : validateLoopbackAddress request.lanAddress with
  | error e =>
    rw [haddress] at h
    cases h
  | ok address =>
    rw [haddress] at h
    simp only at h ⊢
    split at h
    · cases h
    · rename_i hconnected
      rw [if_neg hconnected]
      split at h
      · rename_i old hsession
        unfold EasyTierRoomBackend.setLanAddress
        simp only [hsession, if_neg (validateLoopbackAddress_ok haddress)]
        cases hreplaced : s.live.backend.replaceServer crypto old address outcomes with
        | error e =>
          rw [hreplaced] at h
          cases h
        | ok replaced =>
          rw [hreplaced] at h
          cases h
          simp only
          cases publishLocalEndpoint _ outcomes.written <;> rfl
      · cases h

/-- ... and has the credentials the room has had. -/
theorem moves_held {s : HelperRun} {request : SetLanAddressRequest} {outcomes : LanOutcomes} {host : HostSession}
    (h : s.moves crypto request outcomes = some host) (refresh : RefreshOutcomes) :
    s.live.held = some (some host.credentials) := by
  rw [← setLanAddress_held]
  exact held_iff.2 ⟨host, moves_session h refresh, rfl⟩

/-- **What a leave leaves of a session.** -/
theorem leave_held {s : HelperRun} : match s.stops with
    | some host => s.live.held = some (some host.credentials) ∧ s.live.leave.1.held = none
    | none => s.live.leave.1.backend = s.live.backend ∨ ∀ credentials, s.live.held ≠ some (some credentials) := by
  unfold stops LiveRoom.leave
  by_cases hidle : s.live.service.state.state = .idle
  · rw [if_pos (Or.inl hidle), if_pos hidle]
    exact Or.inl rfl
  · by_cases hleaving : s.live.service.state.state = .leaving
    · rw [if_pos (Or.inr hleaving), if_neg hidle, if_pos hleaving]
      exact Or.inl rfl
    · rw [if_neg (by simp [hidle, hleaving]), if_neg hidle, if_neg hleaving]
      cases hsession : s.live.backend.session with
      | none => exact Or.inr (held_none hsession)
      | some session =>
        cases session with
        | host host => exact ⟨held_iff.2 ⟨host, hsession, rfl⟩, rfl⟩
        | member member =>
          refine Or.inr fun credentials hheld => ?_
          obtain ⟨host, hhost, -⟩ := held_iff.1 hheld
          rw [hsession] at hhost
          cases hhost

/-! ## Every file has its session -/

/-- **The invariant**: a file of this run is the file of the room it hosts. -/
def Owned (s : HelperRun) : Prop := ∀ path advertisement, s.files path = .whole advertisement →
  ∃ credentials, s.live.held = some (some credentials) ∧ advertisementPath credentials.roomCode = .ok path

variable {s : HelperRun}

theorem Owned.cleared (h : s.Owned) (hnone : ∀ credentials, s.live.held ≠ some (some credentials)) : s.Cleared := by
  intro path advertisement hwhole
  obtain ⟨credentials, hheld, -⟩ := h path advertisement hwhole
  exact hnone credentials hheld

theorem Cleared.owned (h : s.Cleared) : s.Owned := fun path advertisement hwhole => absurd hwhole (h path advertisement)

/-- A step that keeps the room's session and adds no file keeps the invariant. -/
theorem Owned.frame {t : HelperRun} (h : s.Owned) (hheld : t.live.held = s.live.held)
    (hfiles : ∀ path advertisement, t.files path = .whole advertisement → s.files path = .whole advertisement) :
    t.Owned := by
  intro path advertisement hwhole
  obtain ⟨credentials, hsession, hpath⟩ := h path advertisement (hfiles path advertisement hwhole)
  exact ⟨credentials, hheld.trans hsession, hpath⟩

theorem publish_whole {files : List Char → EndpointFile} {advertisement found : RoomEndpointAdvertisement}
    {publication : Publication} {path : List Char} (h : publish files advertisement publication path = .whole found) :
    files path = .whole found ∨ advertisementPath advertisement.roomCode = .ok path := by
  unfold publish at h
  cases hown : advertisementPath advertisement.roomCode with
  | error error =>
    rw [hown] at h
    exact Or.inl h
  | ok own =>
    rw [hown] at h
    by_cases hpath : path = own
    · exact Or.inr (congrArg _ hpath.symm)
    · simp only [Function.update_of_ne hpath] at h
      exact Or.inl h

theorem clear_whole {files : List Char → EndpointFile} {roomCode : String} {found : RoomEndpointAdvertisement}
    {path : List Char} (h : clear files roomCode path = .whole found) :
    files path = .whole found ∧ advertisementPath roomCode ≠ .ok path := by
  unfold clear at h
  cases hown : advertisementPath roomCode with
  | error error =>
    rw [hown] at h
    exact ⟨h, by simp⟩
  | ok own =>
    rw [hown] at h
    by_cases hpath : path = own
    · subst hpath
      simp only [Function.update_self, reduceCtorEq] at h
    · simp only [Function.update_of_ne hpath] at h
      exact ⟨h, fun hsame => hpath (Except.ok.inj hsame).symm⟩

/-- **A publication that fails leaves no file of its own**, unless the text is written and the file not restricted. -/
theorem publish_failed {files : List Char → EndpointFile} {advertisement found : RoomEndpointAdvertisement}
    {publication : Publication} {path : List Char} {error : RoomError}
    (hfailed : publishLocalEndpoint advertisement publication.written = .error error)
    (hrestricted : ∀ e, publication ≠ .unrestricted e)
    (h : publish files advertisement publication path = .whole found) : files path = .whole found := by
  unfold publish at h
  unfold publishLocalEndpoint at hfailed
  cases hpath : advertisementPath advertisement.roomCode with
  | error e =>
    rw [hpath] at h
    exact h
  | ok own =>
    rw [hpath] at h hfailed
    by_cases hsame : path = own
    · subst hsame
      simp only [Function.update_self, publishFile, hpath] at h
      cases publication with
      | refused e => exact h
      | cut e => cases h
      | unrestricted e => exact absurd rfl (hrestricted e)
      | done => cases hfailed
    · simp only [Function.update_of_ne hsame] at h
      exact h

/-! ## What a step keeps -/

theorem Owned.create (h : s.Owned) {request : CreateRoomRequest} {outcomes : CreateOutcomes} {publication : Publication}
    (hclears : s.Clears crypto (.call (.create request outcomes) publication)) :
    Owned { s with
      live := s.live.step crypto ((LiveCall.create request outcomes).publishing publication)
      files := s.filesAfter crypto publication (.create request outcomes) } := by
  have hsession := @create_session crypto s request { outcomes with written := publication.written }
  have hopens : s.opens crypto request { outcomes with written := publication.written } =
    s.opens crypto request outcomes := rfl
  rw [hopens] at hsession
  simp only [filesAfter, LiveCall.publishing, LiveRoom.step]
  cases hopened : s.opens crypto request outcomes with
  | none =>
    simp only [hopened] at hsession
    exact h.frame (held_of_session (congrArg _ hsession)) fun _ _ hwhole => hwhole
  | some host =>
    simp only [hopened] at hsession
    obtain ⟨hidle, hafter⟩ := hsession
    -- the session is opened where there is none, so there is no file yet
    have hcleared : s.Cleared := h.cleared (held_none hidle)
    cases hpublished : publishLocalEndpoint (host.advertisement outcomes.nowUnixSeconds) publication.written with
    | error error =>
      have hrestricted : ∀ e, publication ≠ .unrestricted e := by
        intro e he
        rw [hclears e he] at hopened
        cases hopened
      refine Cleared.owned fun path found hwhole => ?_
      exact hcleared path found (publish_failed hpublished hrestricted hwhole)
    | ok u =>
      intro path found hwhole
      rcases publish_whole hwhole with hold | hown
      · exact absurd hold (hcleared path found)
      · refine ⟨host.credentials, held_iff.2 ⟨host, ?_, rfl⟩, hown⟩
        rw [hafter]
        simp only [HostSession.advertisement] at hpublished ⊢
        rw [hpublished]

theorem Owned.join (h : s.Owned) {request : JoinRoomRequest} {outcomes : JoinOutcomes} :
    Owned { s with live := (s.live.join crypto request outcomes).1 } := by
  rcases @join_session crypto s.live request outcomes with hkept | hidle
  · exact h.frame (held_of_session (congrArg _ hkept)) fun _ _ hwhole => hwhole
  · exact Cleared.owned (h.cleared (held_none hidle))

theorem Owned.setLanAddress (h : s.Owned) {request : SetLanAddressRequest} {outcomes outcomes' : LanOutcomes}
    {refresh : RefreshOutcomes} {publication : Publication} :
    Owned { s with
      live := (s.live.setLanAddress crypto request outcomes' refresh).1
      files := s.filesAfter crypto publication (.setLanAddress request outcomes refresh) } := by
  simp only [filesAfter]
  cases hmoves : s.moves crypto request outcomes with
  | none => exact h.frame setLanAddress_held fun _ _ hwhole => hwhole
  | some host =>
    intro path found hwhole
    rcases publish_whole hwhole with hold | hown
    · obtain ⟨credentials, hheld, hpath⟩ := h path found hold
      exact ⟨credentials, setLanAddress_held.trans hheld, hpath⟩
    · exact ⟨host.credentials, setLanAddress_held.trans (moves_held hmoves refresh), hown⟩

theorem Owned.leave (h : s.Owned) {publication : Publication} :
    Owned { s with live := s.live.leave.1, files := s.filesAfter crypto publication .leave } := by
  have hleave := @leave_held s
  simp only [filesAfter]
  cases hstops : s.stops with
  | none =>
    simp only [hstops] at hleave
    rcases hleave with hkept | hnone
    · exact h.frame (held_of_session (congrArg _ hkept)) fun _ _ hwhole => hwhole
    · exact Cleared.owned (h.cleared hnone)
  | some host =>
    simp only [hstops] at hleave
    -- the one file there can be is the one that is removed
    refine Cleared.owned fun path found hwhole => ?_
    obtain ⟨hold, hother⟩ := clear_whole hwhole
    obtain ⟨credentials, hheld, hpath⟩ := h path found hold
    rw [hleave.1] at hheld
    cases hheld
    exact hother hpath

/-- **Every call keeps the files with their session.** -/
theorem Owned.call (h : s.Owned) {call : LiveCall} {publication : Publication}
    (hclears : s.Clears crypto (.call call publication)) :
    Owned { s with
      live := s.live.step crypto (call.publishing publication), files := s.filesAfter crypto publication call } := by
  cases call with
  | create request outcomes => exact h.create hclears
  | join request outcomes => exact h.join
  | setLanAddress request outcomes refresh => exact h.setLanAddress
  | leave => exact h.leave
  | initializeIdentity identity => exact h.frame rfl fun _ _ hwhole => hwhole
  | diagnose refresh again =>
    refine h.frame (held_of_session ?_) fun _ _ hwhole => hwhole
    simp only [LiveCall.publishing, LiveRoom.step, LiveRoom.diagnose]
    cases s.live.service.diagnoseBegin <;> rfl
  | status outcomes => exact h.frame rfl fun _ _ hwhole => hwhole
  | pollAndEmit outcomes => exact h.frame rfl fun _ _ hwhole => hwhole
  | playerPing profile now =>
    exact h.frame (LiveRoom.held_updateContext s.live.service s.live.backend _) fun _ _ hwhole => hwhole
  | cleanup now => exact h.frame (LiveRoom.held_updateContext s.live.service s.live.backend _) fun _ _ hwhole => hwhole

theorem Owned.expire (h : s.Owned) (path : List Char) :
    Owned { s with files := Function.update s.files path .absent } := by
  refine h.frame rfl fun other found hwhole => ?_
  by_cases hsame : other = path
  · subst hsame
    simp only [Function.update_self, reduceCtorEq] at hwhole
  · simpa only [Function.update_of_ne hsame] using hwhole

/-- What holds in every state of a run, the last one among them. -/
structure Tidy (s : HelperRun) : Prop where
  owned : s.Owned
  cleared : s.exited.isSome → s.Cleared

theorem tidy_new : new.Tidy := ⟨fun _ _ hwhole => EndpointFile.noConfusion hwhole, Bool.noConfusion⟩

/-- **A step that leaves no file behind keeps the run tidy.** -/
theorem Tidy.step (h : s.Tidy) {l : RunLabel} {t : HelperRun} (hclears : s.Clears crypto l)
    (hstep : s.step crypto l = some t) : t.Tidy := by
  unfold HelperRun.step at hstep
  split at hstep
  · cases hstep
  · rename_i hrunning
    cases l with
    | call call publication =>
      cases hstep
      exact ⟨h.owned.call hclears, fun hexited => absurd hexited hrunning⟩
    | expire path =>
      cases hstep
      exact ⟨h.owned.expire path, fun hexited => absurd hexited hrunning⟩
    | exit reason =>
      cases hstep
      have hcleared : s.Cleared := h.owned.cleared fun credentials hheld => by
        obtain ⟨host, hhost, -⟩ := held_iff.1 hheld
        exact hclears host hhost
      exact ⟨h.owned, fun _ => hcleared⟩
    | exitInCreate request outcomes reason =>
      have hnone : s.opens crypto request outcomes = none := hclears
      simp only [hnone, reduceCtorEq] at hstep
    | exitInLeave reason =>
      have hnone : s.stops = none := hclears
      simp only [hnone, reduceCtorEq] at hstep

end HelperRun

/-! ## The exits -/

/-- **A Helper that ends with an open room leaves its advertisement behind**, on an orderly shutdown too. -/
theorem shutdown_leaves_advertisement :
    ∃ s, run (HelperRun.step zeroRoomCrypto) .new
        [.call (.initializeIdentity []) .done,
          .call (.create ⟨"session-1", "127.0.0.1:25565", true, true⟩ LiveRoom.allGood) .done,
          .exit .shutdownRequested] = some s ∧
      s.exited = some .shutdownRequested ∧
      s.files (List.replicate 12 'A') =
        .whole ⟨"AAAA-AAAA-AAAA", "127.0.0.1:40000", "127.0.0.1:25565", 1700000000⟩ :=
  ⟨_, rfl, rfl, by decide⟩

/-- **No file outlives a run** whose room is left before the exit, by a leave that is not cut. -/
theorem exit_leaves_no_advertisement (crypto : Crypto) {trace : List RunLabel} {s : HelperRun}
    (hclears : Along (HelperRun.step crypto) (HelperRun.Clears crypto) .new trace)
    (hrun : run (HelperRun.step crypto) .new trace = some s) (hexited : s.exited.isSome) : s.Cleared := by
  have htidy : s.Tidy := Run.invariant HelperRun.Tidy (fun s l t h hl ht => h.step hl ht) HelperRun.tidy_new hclears hrun
  exact htidy.cleared hexited

/-- A room that is created, and left before the shutdown. -/
def leftRoom : List RunLabel :=
  [.call (.initializeIdentity []) .done,
    .call (.create ⟨"session-1", "127.0.0.1:25565", true, true⟩ LiveRoom.allGood) .done,
    .call .leave .done, .exit .shutdownRequested]

theorem leftRoom_clears : Along (HelperRun.step zeroRoomCrypto) (HelperRun.Clears zeroRoomCrypto) .new leftRoom := by
  refine ⟨trivial, fun error h => ?_, trivial, fun host h => ?_, trivial⟩
  · cases h
  · cases h

theorem left_room_leaves_no_advertisement :
    ∃ s, run (HelperRun.step zeroRoomCrypto) .new leftRoom = some s ∧ s.exited = some .shutdownRequested ∧ s.Cleared :=
  ⟨_, rfl, rfl, exit_leaves_no_advertisement zeroRoomCrypto leftRoom_clears rfl rfl⟩

end Terracotta
