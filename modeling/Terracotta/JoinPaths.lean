import Terracotta.MeshNetwork
import Terracotta.Resources
/-!
# When a join goes through (`network/backend.rs`, `network/discovery.rs`)

`join` looks for an advertisement up to eight times, and takes the forwards to the endpoints in it, or else the mesh.  Both
paths end in a heartbeat, and whether the host answers it is left to the snapshot of the members.
-/
namespace Terracotta

open Net (SocketAddr)

/-! ## A look into the discovery directory -/

namespace DiscoveryFile

/-- What fails a look. -/
def Rejected (roomCode : String) : DiscoveryFile → Prop
  | .absent => False
  | .unreadable _ | .malformed => True
  | .advertisement found _ =>
    compactRoomCode roomCode.toList ≠ compactRoomCode found.roomCode.toList ∨
      (∀ address, parseLoopback found.scaffolding ≠ .ok address) ∨
      ∀ address, parseLoopback found.minecraft ≠ .ok address

/-- What makes the next look, or the mesh, go on. -/
def PassedOver (roomCode : String) (file : DiscoveryFile) : Prop :=
  ¬ file.Rejected roomCode ∧ match file with
    | .advertisement found nowUnixSeconds =>
      maxAdvertisementAge < nowUnixSeconds - found.publishedUnixSeconds
    | _ => True

end DiscoveryFile

/-- **The three ends of a look.** -/
theorem loadLocalEndpoint_cases {roomCode : String} {path : List Char} (hpath : advertisementPath roomCode = .ok path)
    (file : DiscoveryFile) :
    (file.Rejected roomCode ∧ ∃ error, loadLocalEndpoint roomCode file = .error error) ∨
    (file.PassedOver roomCode ∧ loadLocalEndpoint roomCode file = .ok none) ∨
    (¬ file.Rejected roomCode ∧ ¬ file.PassedOver roomCode ∧ ∃ advertisement,
      loadLocalEndpoint roomCode file = .ok (some advertisement) ∧
      (∃ address, parseLoopback advertisement.scaffolding = .ok address) ∧
      ∃ address, parseLoopback advertisement.minecraft = .ok address) := by
  unfold loadLocalEndpoint
  rw [hpath]
  cases file with
  | absent => exact .inr (.inl ⟨⟨id, trivial⟩, rfl⟩)
  | unreadable error => exact .inl ⟨trivial, _, rfl⟩
  | malformed => exact .inl ⟨trivial, _, rfl⟩
  | advertisement advertisement nowUnixSeconds =>
    by_cases hcode : compactRoomCode roomCode.toList ≠ compactRoomCode advertisement.roomCode.toList
    · refine .inl ⟨.inl hcode, discoveryInvalid "The local room advertisement does not match the requested room code.", ?_⟩
      simp only [bind, Except.bind, if_pos hcode]
    cases hscaffolding : parseLoopback advertisement.scaffolding with
    | error error =>
      refine .inl ⟨.inr (.inl (fun address h => by rw [hscaffolding] at h; cases h)), error, ?_⟩
      simp only [bind, Except.bind, if_neg hcode, hscaffolding]
    | ok scaffolding =>
    cases hminecraft : parseLoopback advertisement.minecraft with
    | error error =>
      refine .inl ⟨.inr (.inr (fun address h => by rw [hminecraft] at h; cases h)), error, ?_⟩
      simp only [bind, Except.bind, if_neg hcode, hscaffolding, hminecraft]
    | ok minecraft =>
    have hkept : ¬ DiscoveryFile.Rejected roomCode (.advertisement advertisement nowUnixSeconds) := by
      rintro (h | h | h)
      · exact hcode h
      · exact h scaffolding hscaffolding
      · exact h minecraft hminecraft
    by_cases hstale : maxAdvertisementAge < nowUnixSeconds - advertisement.publishedUnixSeconds
    · refine .inr (.inl ⟨⟨hkept, hstale⟩, ?_⟩)
      simp only [bind, Except.bind, if_neg hcode, hscaffolding, hminecraft, if_pos hstale]
      rfl
    · refine .inr (.inr ⟨hkept, fun h => hstale h.2, advertisement, ?_, ⟨_, hscaffolding⟩, ⟨_, hminecraft⟩⟩)
      simp only [bind, Except.bind, if_neg hcode, hscaffolding, hminecraft, if_neg hstale]
      rfl

/-- **The looks end with the first that does not pass over its file**, or with the last. -/
theorem tryLocalEndpoint_cases (roomCode : String) (file : Nat → DiscoveryFile) : ∀ left, left ≤ 8 →
    ((∀ k, 8 - left ≤ k → k < 8 → loadLocalEndpoint roomCode (file k) = .ok none) ∧
      tryLocalEndpoint roomCode file left = .ok none) ∨
    ∃ k, 8 - left ≤ k ∧ k < 8 ∧ (∀ j, 8 - left ≤ j → j < k → loadLocalEndpoint roomCode (file j) = .ok none) ∧
      loadLocalEndpoint roomCode (file k) ≠ .ok none ∧
      tryLocalEndpoint roomCode file left = loadLocalEndpoint roomCode (file k)
  | 0, _ => .inl ⟨fun k hle hlt => absurd hle (Nat.not_le.2 hlt), rfl⟩
  | left + 1, hleft => by
    have hfirst : 8 - (left + 1) = 7 - left := by omega
    have ih := tryLocalEndpoint_cases roomCode file left (by omega)
    rw [tryLocalEndpoint, hfirst]
    cases hload : loadLocalEndpoint roomCode (file (7 - left)) with
    | error error =>
      refine .inr ⟨7 - left, Nat.le_refl _, by omega, fun j hle hlt => absurd hle (Nat.not_le.2 hlt), ?_, ?_⟩
      · rw [hload]
        intro h
        cases h
      · rw [hload]
        rfl
    | ok found =>
    cases found with
    | some advertisement =>
      refine .inr ⟨7 - left, Nat.le_refl _, by omega, fun j hle hlt => absurd hle (Nat.not_le.2 hlt), ?_, ?_⟩
      · rw [hload]
        intro h
        cases h
      · rw [hload]
        rfl
    | none =>
      -- the looks behind this one
      have hlater : ∀ k, 7 - left ≤ k → k = 7 - left ∨ 8 - left ≤ k := fun k hle => by omega
      show (_ ∧ tryLocalEndpoint roomCode file left = _) ∨ ∃ k, _ ∧ _ ∧ _ ∧ _ ∧ tryLocalEndpoint roomCode file left = _
      rcases ih with ⟨hnone, hresult⟩ | ⟨k, hle, hlt, hbefore, hnot, hresult⟩
      · refine .inl ⟨fun k hk hk8 => ?_, hresult⟩
        rcases hlater k hk with rfl | hk
        · exact hload
        · exact hnone k hk hk8
      · refine .inr ⟨k, by omega, hlt, fun j hj hjk => ?_, hnot, hresult⟩
        rcases hlater j hj with rfl | hj
        · exact hload
        · exact hbefore j hj hjk

/-! ## The two paths -/

theorem exists_bind_ok {ε α β : Type} {x : Except ε α} {f : α → Except ε β} :
    (∃ b, (x >>= f) = .ok b) ↔ ∃ a, x = .ok a ∧ ∃ b, f a = .ok b := by
  constructor
  · rintro ⟨b, h⟩
    obtain ⟨a, ha, hb⟩ := of_bind_ok h
    exact ⟨a, ha, b, hb⟩
  · rintro ⟨a, rfl, b, hb⟩
    exact ⟨b, hb⟩

theorem exists_startEasytier {binary : String} {rpcPortal : SocketAddr} {launch : Launch} {p : EasyTierNode → Prop}
    (hp : ∀ node, p node) : (∃ node, startEasytier binary rpcPortal launch = .ok node ∧ p node) ↔ launch = .running := by
  constructor
  · rintro ⟨node, hnode, -⟩
    cases launch with
    | running => rfl
    | missing | spawnFailed _ | exited _ => cases hnode
  · rintro rfl
    exact ⟨_, rfl, hp _⟩

/-- Both forwards of the local path start. -/
def JoinOutcomes.Forwards (outcomes : JoinOutcomes) : Prop :=
  (∃ port, outcomes.scaffoldingForward = .ok port) ∧ ∃ port, outcomes.minecraftForward = .ok port

/-- A probe of the mesh path gets through to EasyTier's own forward. -/
def JoinOutcomes.Connects (outcomes : JoinOutcomes) : Prop := ∃ k < 40, outcomes.connects k = true

theorem exists_startForward (service : String) {outcome : Except String Port} :
    (∃ address, startForward service outcome = .ok address) ↔ ∃ port, outcome = .ok port := by
  cases outcome with
  | error error =>
    constructor
    · rintro ⟨address, h⟩
      cases h
    · rintro ⟨port, h⟩
      cases h
  | ok port => exact ⟨fun _ => ⟨port, rfl⟩, fun _ => ⟨_, rfl⟩⟩

theorem waitForTcp_ok (address : SocketAddr) {connects : Nat → Bool} :
    (∃ u, waitForTcp address connects = .ok u) ↔ ∃ k < 40, connects k = true := by
  have hany : (List.range 40).any connects = true ↔ ∃ k < 40, connects k = true := by simp
  unfold waitForTcp
  rw [← hany]
  split
  · rename_i h
    exact ⟨fun _ => h, fun _ => ⟨_, rfl⟩⟩
  · rename_i h
    constructor
    · rintro ⟨u, hu⟩
      cases hu
    · exact fun hany => absurd hany h

namespace EasyTierRoomBackend

variable {crypto : Crypto} {b : EasyTierRoomBackend}

theorem joinViaLocalDiscovery_iff {identity : List UInt8} {credentials : RoomCredentials} {binary : String}
    {advertisement : RoomEndpointAdvertisement} {outcomes : JoinOutcomes}
    (hscaffolding : ∃ address, parseLoopback advertisement.scaffolding = .ok address)
    (hminecraft : ∃ address, parseLoopback advertisement.minecraft = .ok address) :
    (∃ r, joinViaLocalDiscovery crypto identity credentials binary advertisement outcomes = .ok r) ↔
      outcomes.launch = .running ∧ outcomes.Forwards := by
  obtain ⟨scaffolding, hscaffolding⟩ := hscaffolding
  obtain ⟨minecraft, hminecraft⟩ := hminecraft
  unfold joinViaLocalDiscovery JoinOutcomes.Forwards
  rw [← exists_startForward "Scaffolding", ← exists_startForward "Minecraft",
    hscaffolding, hminecraft]
  constructor
  · rintro ⟨r, h⟩
    obtain ⟨node, hnode, h⟩ := of_bind_ok h
    obtain ⟨_, _, h⟩ := of_bind_ok h
    obtain ⟨_, _, h⟩ := of_bind_ok h
    obtain ⟨forward, hforward, h⟩ := of_bind_ok h
    obtain ⟨forward', hforward', _⟩ := of_bind_ok h
    exact ⟨(exists_startEasytier fun _ => trivial).1 ⟨node, hnode, trivial⟩, ⟨forward, hforward⟩, forward', hforward'⟩
  · rintro ⟨hlaunch, ⟨forward, hforward⟩, forward', hforward'⟩
    rw [hlaunch, hforward, hforward']
    exact ⟨_, rfl⟩

theorem joinViaMesh_iff {identity : List UInt8} {credentials : RoomCredentials} {binary : String}
    {outcomes : JoinOutcomes} :
    (∃ r, joinViaMesh crypto identity credentials binary outcomes = .ok r) ↔
      outcomes.launch = .running ∧ outcomes.Connects := by
  unfold joinViaMesh JoinOutcomes.Connects
  rw [← waitForTcp_ok (MeshEndpoints.fromRoomCode crypto credentials.roomCode).memberLocalScaffoldingAddr]
  constructor
  · rintro ⟨r, h⟩
    obtain ⟨node, hnode, h⟩ := of_bind_ok h
    obtain ⟨u, hu, _⟩ := of_bind_ok h
    exact ⟨(exists_startEasytier fun _ => trivial).1 ⟨node, hnode, trivial⟩, u, hu⟩
  · rintro ⟨hlaunch, u, hu⟩
    simp only [hlaunch, hu]
    exact ⟨_, rfl⟩

/-- What every join needs, on whatever path: no session, an identity, a binary, a code, and an EasyTier that runs. -/
def MayJoin (crypto : Crypto) (b : EasyTierRoomBackend) (request : JoinRoomRequest) (outcomes : JoinOutcomes)
    (credentials : RoomCredentials) : Prop :=
  b.session = none ∧ b.identity.isSome = true ∧ outcomes.binary.isSome = true ∧
    RoomCredentials.fromRoomCode crypto request.roomCode = .ok credentials ∧ outcomes.launch = .running

/-- What its path needs behind the looks. -/
def PathOpen (outcomes : JoinOutcomes) : Except RoomError (Option RoomEndpointAdvertisement) → Prop
  | .error _ => False
  | .ok (some _) => outcomes.Forwards
  | .ok none => outcomes.Connects

theorem credentials_code {code : String} {credentials : RoomCredentials}
    (h : RoomCredentials.fromRoomCode crypto code = .ok credentials) : normalizeRoomCode code = .ok credentials.roomCode := by
  unfold RoomCredentials.fromRoomCode at h
  obtain ⟨normal, hnormal, h⟩ := of_bind_ok h
  cases h
  exact hnormal

theorem credentials_path {code : String} {credentials : RoomCredentials}
    (h : RoomCredentials.fromRoomCode crypto code = .ok credentials) :
    advertisementPath credentials.roomCode = .ok (compactRoomCode credentials.roomCode.toList) := by
  have hnormal := normalizeRoomCode_canonical (credentials_canonical h)
  exact advertisementPath_eq_ok.2 ⟨(normalizeRoomCode_eq_ok.1 hnormal).1, rfl⟩

/-- An advertisement that is found has endpoints on a loopback address. -/
theorem tryLocalEndpoint_parses {roomCode : String} {path : List Char} {file : Nat → DiscoveryFile}
    {advertisement : RoomEndpointAdvertisement} (hpath : advertisementPath roomCode = .ok path)
    (h : tryLocalEndpoint roomCode file 8 = .ok (some advertisement)) :
    (∃ address, parseLoopback advertisement.scaffolding = .ok address) ∧
      ∃ address, parseLoopback advertisement.minecraft = .ok address := by
  rcases tryLocalEndpoint_cases roomCode file 8 (Nat.le_refl 8) with ⟨-, hnone⟩ | ⟨k, -, -, -, -, hk⟩
  · rw [hnone] at h
    cases h
  · rw [hk] at h
    rcases loadLocalEndpoint_cases hpath (file k) with ⟨-, error, he⟩ | ⟨-, he⟩ | ⟨-, -, found, he, hendpoints⟩ <;>
      rw [h] at he <;> cases he
    exact hendpoints

/-- **When a join goes through.** -/
theorem joinSession_iff {request : JoinRoomRequest} {outcomes : JoinOutcomes} :
    (∃ r, b.joinSession crypto request outcomes = .ok r) ↔
      ∃ credentials, MayJoin crypto b request outcomes credentials ∧
        PathOpen outcomes (tryLocalEndpoint credentials.roomCode outcomes.file 8) := by
  unfold joinSession MayJoin
  constructor
  · rintro ⟨r, h⟩
    obtain ⟨u, hidle, h⟩ := of_bind_ok h
    obtain ⟨identity, hidentity, h⟩ := of_bind_ok h
    obtain ⟨binary, hbinary, h⟩ := of_bind_ok h
    obtain ⟨credentials, hcredentials, h⟩ := of_bind_ok h
    obtain ⟨found, hfound, h⟩ := of_bind_ok h
    have hsome : outcomes.binary.isSome = true := by
      cases hnone : outcomes.binary with
      | none => rw [hnone] at hbinary; cases hbinary
      | some _ => rfl
    have hknown : b.identity.isSome = true := by rw [requireIdentity_ok.1 hidentity]; rfl
    have hpath : outcomes.launch = .running ∧ PathOpen outcomes (.ok found) := by
      cases found with
      | some advertisement =>
        have hparses := tryLocalEndpoint_parses (credentials_path hcredentials) hfound
        exact (joinViaLocalDiscovery_iff hparses.1 hparses.2).1 ⟨r, h⟩
      | none => exact joinViaMesh_iff.1 ⟨r, h⟩
    exact ⟨credentials, ⟨ensureIdle_ok hidle, hknown, hsome, hcredentials, hpath.1⟩, by rw [hfound]; exact hpath.2⟩
  · rintro ⟨credentials, ⟨hidle, hidentity, hbinary, hcredentials, hlaunch⟩, hopen⟩
    obtain ⟨identity, hidentity⟩ := Option.isSome_iff_exists.1 hidentity
    obtain ⟨binary, hbinary⟩ := Option.isSome_iff_exists.1 hbinary
    have hensure : b.ensureIdle = .ok () := by
      unfold ensureIdle
      rw [hidle]
      rfl
    rw [hensure, requireIdentity_ok.2 hidentity, hbinary, hcredentials]
    show ∃ r, (tryLocalEndpoint credentials.roomCode outcomes.file 8 >>= _) = .ok r
    rw [exists_bind_ok]
    cases hfound : tryLocalEndpoint credentials.roomCode outcomes.file 8 with
    | error error =>
      rw [hfound] at hopen
      exact absurd hopen id
    | ok found =>
      rw [hfound] at hopen
      refine ⟨found, rfl, ?_⟩
      cases found with
      | some advertisement =>
        have hparses := tryLocalEndpoint_parses (credentials_path hcredentials) hfound
        exact (joinViaLocalDiscovery_iff hparses.1 hparses.2).2 ⟨hlaunch, hopen⟩
      | none => exact joinViaMesh_iff.2 ⟨hlaunch, hopen⟩

/-! ## The fallback to the mesh -/

/-- What the looks of a join find: up to the first file that is not passed over none is rejected, and with that one there
are the forwards to its endpoints. -/
def FallsBack (roomCode : String) (outcomes : JoinOutcomes) : Prop :=
  ∀ k < 8, (∀ j < k, (outcomes.file j).PassedOver roomCode) →
    ¬ (outcomes.file k).Rejected roomCode ∧ ((outcomes.file k).PassedOver roomCode ∨ outcomes.Forwards)

/-- The mesh path alone: the join of a member whose directory is empty. -/
def MeshJoins (crypto : Crypto) (b : EasyTierRoomBackend) (request : JoinRoomRequest) (outcomes : JoinOutcomes) : Prop :=
  ∃ room, (b.join crypto request { outcomes with file := fun _ => .absent }).2 = .ok room

theorem join_ok_iff {request : JoinRoomRequest} {outcomes : JoinOutcomes} :
    (∃ room, (b.join crypto request outcomes).2 = .ok room) ↔ ∃ r, b.joinSession crypto request outcomes = .ok r := by
  unfold join
  cases b.joinSession crypto request outcomes with
  | error error =>
    constructor
    · rintro ⟨room, h⟩
      cases h
    · rintro ⟨r, h⟩
      cases h
  | ok r => exact ⟨fun _ => ⟨r, rfl⟩, fun _ => ⟨r.2, rfl⟩⟩

theorem tryLocalEndpoint_absent {roomCode : String} {path : List Char} (hpath : advertisementPath roomCode = .ok path) :
    tryLocalEndpoint roomCode (fun _ => .absent) 8 = .ok none := by
  have hload : loadLocalEndpoint roomCode .absent = .ok none := by
    unfold loadLocalEndpoint
    rw [hpath]
    rfl
  rcases tryLocalEndpoint_cases roomCode (fun _ => .absent) 8 (Nat.le_refl 8) with ⟨-, h⟩ | ⟨k, -, -, -, hk, -⟩
  · exact h
  · exact absurd hload hk

/-- Where the mesh connects, the path behind the looks is open exactly when they fall back. -/
theorem pathOpen_iff {roomCode : String} {path : List Char} {outcomes : JoinOutcomes}
    (hpath : advertisementPath roomCode = .ok path) (hconnects : outcomes.Connects) :
    PathOpen outcomes (tryLocalEndpoint roomCode outcomes.file 8) ↔ FallsBack roomCode outcomes := by
  have hpassed : ∀ k, loadLocalEndpoint roomCode (outcomes.file k) = .ok none ↔ (outcomes.file k).PassedOver roomCode := by
    intro k
    rcases loadLocalEndpoint_cases hpath (outcomes.file k) with ⟨hbad, error, he⟩ | ⟨hp, he⟩ | ⟨-, hp, found, he, -⟩
    · rw [he]
      exact ⟨fun h => (by cases h), fun h => absurd hbad h.1⟩
    · exact ⟨fun _ => hp, fun _ => he⟩
    · rw [he]
      exact ⟨fun h => (by cases h), fun h => absurd h hp⟩
  unfold FallsBack
  rcases tryLocalEndpoint_cases roomCode outcomes.file 8 (Nat.le_refl 8) with
    ⟨hnone, hresult⟩ | ⟨k, -, hk, hbefore, hnot, hresult⟩
  · rw [hresult]
    refine ⟨fun _ k hk _ => ?_, fun _ => hconnects⟩
    have hp := (hpassed k).1 (hnone k (Nat.zero_le k) hk)
    exact ⟨hp.1, .inl hp⟩
  · rw [hresult]
    have hearlier : ∀ j < k, (outcomes.file j).PassedOver roomCode :=
      fun j hj => (hpassed j).1 (hbefore j (Nat.zero_le j) hj)
    have hstops : ¬ (outcomes.file k).PassedOver roomCode := fun h => hnot ((hpassed k).2 h)
    rcases loadLocalEndpoint_cases hpath (outcomes.file k) with ⟨hbad, error, he⟩ | ⟨hp, -⟩ | ⟨hgood, -, found, he, -⟩
    · rw [he]
      exact ⟨fun h => absurd h id, fun h => (h k hk hearlier).1 hbad⟩
    · exact absurd hp hstops
    · rw [he]
      constructor
      · intro hforwards i _ hi
        -- nothing behind the usable file is looked at
        have hle : i ≤ k := Nat.le_of_not_lt (fun hlt => hstops (hi k hlt))
        rcases Nat.lt_or_eq_of_le hle with hlt | rfl
        · exact ⟨(hearlier i hlt).1, .inl (hearlier i hlt)⟩
        · exact ⟨hgood, .inr hforwards⟩
      · intro h
        exact (h k hk hearlier).2.resolve_left hstops

/-- **When a join of a room the mesh reaches goes through**: exactly when its looks fall back. -/
theorem join_falls_back_iff (crypto : Crypto) (b : EasyTierRoomBackend) (request : JoinRoomRequest)
    (outcomes : JoinOutcomes) :
    (b.MeshJoins crypto request outcomes → ∃ room, (b.join crypto request outcomes).2 = .ok room) ↔
      (b.MeshJoins crypto request outcomes →
        ∀ code, normalizeRoomCode request.roomCode = .ok code → FallsBack code outcomes) := by
  refine imp_congr_right fun hmesh => ?_
  rw [join_ok_iff, joinSession_iff]
  obtain ⟨credentials, hmay, hopen⟩ := joinSession_iff.1 (join_ok_iff.1 hmesh)
  have hcredentials := hmay.2.2.2.1
  have hpath := credentials_path hcredentials
  rw [show ({ outcomes with file := fun _ => .absent } : JoinOutcomes).file = fun _ => .absent from rfl,
    tryLocalEndpoint_absent hpath] at hopen
  have hconnects : outcomes.Connects := hopen
  have hcode : normalizeRoomCode request.roomCode = .ok credentials.roomCode := credentials_code hcredentials
  rw [hcode]
  constructor
  · rintro ⟨derived, hderived, hpathOpen⟩ code hnormal
    obtain rfl : derived = credentials := Except.ok.inj (hderived.2.2.2.1.symm.trans hcredentials)
    cases hnormal
    exact (pathOpen_iff hpath hconnects).1 hpathOpen
  · intro hfalls
    exact ⟨credentials, hmay, (pathOpen_iff hpath hconnects).2 (hfalls _ rfl)⟩

/-- A member of `zeroRoom` whose mesh connects at once, with nothing in its directory. -/
def meshOutcomes : JoinOutcomes where
  binary := some "easytier-core"
  file := fun _ => .absent
  launch := .running
  connects := fun _ => true
  scaffoldingForward := .ok ⟨40003, by decide⟩
  minecraftForward := .ok ⟨40002, by decide⟩
  heartbeat := none
  broadcast := true

/-- **A file that does not parse keeps a member out of a room its mesh reaches.** -/
theorem malformed_file_fails_join : ¬ ∀ (crypto : Crypto) (b : EasyTierRoomBackend) (request : JoinRoomRequest)
    (outcomes : JoinOutcomes), b.MeshJoins crypto request outcomes →
      ∃ room, (b.join crypto request outcomes).2 = .ok room := by
  intro h
  have hmesh : (⟨some [], none⟩ : EasyTierRoomBackend).MeshJoins zeroRoomCrypto ⟨"AAAA-AAAA-AAAA", none⟩
      { meshOutcomes with file := fun _ => .malformed } := ⟨_, rfl⟩
  obtain ⟨room, hroom⟩ := h zeroRoomCrypto ⟨some [], none⟩ ⟨"AAAA-AAAA-AAAA", none⟩ _ hmesh
  cases hroom

end EasyTierRoomBackend

/-! ## The heartbeat -/

namespace OwningBackend

/-- A join that opens a room had an answer of the host, and one that does not leaves no session and nothing alive of what
it started. -/
def JoinAnswered (crypto : Crypto) (w : OwningBackend) (request : JoinRoomRequest) (outcomes : JoinOutcomes) : Prop :=
  match (w.join crypto request outcomes).2 with
  | .ok _ => outcomes.heartbeat.isSome = true
  | .error _ => (w.join crypto request outcomes).1.backend = w.backend ∧ (w.join crypto request outcomes).1.held = w.held ∧
    ∀ r, r ∈ (w.join crypto request outcomes).1.heap.alive ↔ r ∈ w.heap.alive

/-- Everything in front of the heartbeat goes through. -/
def ReachesHeartbeat (crypto : Crypto) (w : OwningBackend) (request : JoinRoomRequest) (outcomes : JoinOutcomes) : Prop :=
  ∃ credentials, EasyTierRoomBackend.MayJoin crypto w.backend request outcomes credentials ∧
    EasyTierRoomBackend.PathOpen outcomes (tryLocalEndpoint credentials.roomCode outcomes.file 8)

/-- **A join keeps what it owes to a failure, always, and to a host without an answer exactly where it fails before it
asks**: after any sequence of calls. -/
theorem join_answered_iff (crypto : Crypto) (calls : List RoomCall) (request : JoinRoomRequest) (outcomes : JoinOutcomes) :
    (after crypto calls).JoinAnswered crypto request outcomes ↔
      ((after crypto calls).ReachesHeartbeat crypto request outcomes → outcomes.heartbeat.isSome = true) := by
  have hopened := (after_owning crypto calls).join_opened crypto request outcomes
  have hrefines := join_refines crypto (after crypto calls) request outcomes
  generalize after crypto calls = w at hopened hrefines
  have hreaches : w.ReachesHeartbeat crypto request outcomes ↔ ∃ room, (w.join crypto request outcomes).2 = .ok room := by
    have hsecond : (w.join crypto request outcomes).2 = (w.backend.join crypto request outcomes).2 := by rw [← hrefines]
    unfold ReachesHeartbeat
    rw [hsecond, EasyTierRoomBackend.join_ok_iff, EasyTierRoomBackend.joinSession_iff]
  rw [hreaches]
  unfold JoinAnswered
  cases hresult : (w.join crypto request outcomes).2 with
  | ok room => exact ⟨fun h _ => h, fun h => h ⟨room, rfl⟩⟩
  | error error =>
    rw [hresult] at hopened
    obtain ⟨hbackend, hheld, halive, -⟩ := hopened
    refine ⟨fun _ hroom => ?_, fun _ => ⟨hbackend, hheld, halive⟩⟩
    obtain ⟨room, hroom⟩ := hroom
    cases hroom

/-- **A room that is joined without a word of its host.** -/
theorem silent_host_is_joined : ¬ ∀ (crypto : Crypto) (calls : List RoomCall) (request : JoinRoomRequest)
    (outcomes : JoinOutcomes), (after crypto calls).JoinAnswered crypto request outcomes := by
  intro h
  have hanswered := h zeroRoomCrypto [.initializeIdentity []] ⟨"AAAA-AAAA-AAAA", none⟩ EasyTierRoomBackend.meshOutcomes
  cases hanswered

end OwningBackend

end Terracotta
