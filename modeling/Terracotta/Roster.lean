import Terracotta.Scaffolding
import Terracotta.Run
/-!
# The roster of one host over time (`network/backend.rs`, `scaffolding/server.rs`)

A host, and members that join its room and refresh afterwards, each with messages that reach the host at the clock value
of the label.  A join is heard under the machine id of the member's identity.  A refresh is heard under a machine id of
its own, `probe-` with the Unix time: it does not keep the member on the roster, and puts a player on it that nobody is.
-/
namespace Terracotta

inductive RosterLabel where
  | join (identity : List UInt8) (now : Nat)
  | refresh (identity : List UInt8) (nowUnixSeconds : UInt64) (now : Nat)
  | cleanup (now : Nat)
deriving DecidableEq

def RosterLabel.time : RosterLabel → Nat
  | .join _ t | .refresh _ _ t | .cleanup t => t

/-- The host's roster, and when each member that has joined did so or refreshed last. -/
structure Roster where
  context : ServerContext
  members : List (List UInt8 × Nat)
  clock : Nat
deriving DecidableEq

namespace Roster

variable (crypto : Crypto)

/-- One message or cleanup, at a clock value that is not in the past.  Only a member that has joined can refresh. -/
def step (s : Roster) (label : RosterLabel) : Option Roster :=
  if label.time < s.clock then none
  else match label with
    | .join identity now => some
        { context := (s.context.visit (guestProfile crypto identity) now).1
          members := Expiry.insert s.members identity now
          clock := now }
    | .refresh identity nowUnixSeconds now =>
      if identity ∉ Expiry.keys s.members then none
      else some
        { context := (s.context.visit (probeProfile nowUnixSeconds) now).1
          members := Expiry.insert s.members identity now
          clock := now }
    | .cleanup now => some { s with context := s.context.removeStaleGuests now, clock := now }

/-- A host that has just created its room. -/
def opened (context : ServerContext) (now : Nat) : Roster := ⟨context, [], now⟩

/-- **The roster is right**: the host, and the members whose latest join or refresh lies within the last ten seconds, each
once and under its own machine id. -/
structure Accurate (s : Roster) : Prop where
  once : (s.context.playerProfiles.map PlayerProfile.machineId).Nodup
  listed : ∀ id, id ∈ s.context.playerProfiles.map PlayerProfile.machineId ↔ id = s.context.hostMachineId ∨
    ∃ m ∈ s.members, machineIdFromIdentity crypto m.1 = id ∧ s.clock - m.2 ≤ playerTimeout

/-! ## What the roster holds of a run -/

/-- A label the host hears under this machine id. -/
def heard (hostId : String) (labels : List RosterLabel) (id : String) (t : Nat) : Prop :=
  (id ≠ hostId ∧ ∃ identity, .join identity t ∈ labels ∧ machineIdFromIdentity crypto identity = id) ∨
    ∃ identity unix, .refresh identity unix t ∈ labels ∧ (probeProfile unix).machineId = id

/-- **The invariant of a run**, with the labels so far. -/
structure Inv (hostId : String) (labels : List RosterLabel) (s : Roster) : Prop where
  host : s.context.hostMachineId = hostId
  keyed : s.context.Keyed
  tracks : Expiry.Tracks TrackedPlayer.lastSeen hostId playerTimeout (heard crypto hostId labels) s.clock
    s.context.players
  past : ∀ label ∈ labels, label.time ≤ s.clock
  latest : ∀ m ∈ s.members, .join m.1 m.2 ∈ labels ∨ ∃ unix, .refresh m.1 unix m.2 ∈ labels
  joined : ∀ identity t, .join identity t ∈ labels → ∃ m ∈ s.members, m.1 = identity ∧ t ≤ m.2

variable {crypto : Crypto} {hostId : String} {labels : List RosterLabel} {s t : Roster}

theorem heard_append (more : List RosterLabel) (id : String) (time : Nat) :
    heard crypto hostId (labels ++ more) id time ↔
      heard crypto hostId labels id time ∨ heard crypto hostId more id time := by
  simp only [heard, List.mem_append, or_and_right, exists_or, and_or_left]
  exact or_or_or_comm

theorem Inv.heard_past (h : Inv crypto hostId labels s) {id : String} {time : Nat}
    (hheard : heard crypto hostId labels id time) : time ≤ s.clock := by
  rcases hheard with ⟨-, identity, hm, -⟩ | ⟨identity, unix, hm, -⟩
  · exact h.past _ hm
  · exact h.past _ hm

/-- **A visit puts its machine id on the roster**, unless it is the host's. -/
theorem Inv.tracks_visit (h : Inv crypto hostId labels s) {profile : PlayerProfile} (hvalid : profile.validate = true)
    {now : Nat} (hle : s.clock ≤ now) :
    Expiry.Tracks TrackedPlayer.lastSeen hostId playerTimeout
      (fun id time => heard crypto hostId labels id time ∨ (id ≠ hostId ∧ profile.machineId = id ∧ time = now)) now
      (s.context.visit profile now).1.players := by
  by_cases heq : profile.machineId = s.context.hostMachineId
  · rw [ServerContext.visit_host heq]
    refine (h.tracks.later hle).congr fun id time => (or_iff_left ?_).symm
    rintro ⟨hne, hid, -⟩
    exact hne (hid.symm.trans (heq.trans h.host))
  · rw [ServerContext.visit_heard hvalid heq]
    have hkey : profile.machineId ≠ hostId := fun hid => heq (hid.trans h.host.symm)
    refine ((h.tracks.later hle).insert hkey (fun id time hheard => ?_)).congr fun id time => or_congr_right ?_
    · exact Nat.le_trans (h.heard_past hheard) hle
    · constructor
      · rintro ⟨rfl, rfl⟩
        exact ⟨hkey, rfl, rfl⟩
      · rintro ⟨-, rfl, rfl⟩
        exact ⟨rfl, rfl⟩

theorem Inv.past_snoc (h : Inv crypto hostId labels s) {label : RosterLabel} (hle : s.clock ≤ label.time) :
    ∀ l ∈ labels ++ [label], l.time ≤ label.time := by
  intro l hl
  rcases List.mem_append.1 hl with hl | hl
  · exact Nat.le_trans (h.past l hl) hle
  · rw [List.mem_singleton.1 hl]

/-- A member is noted at its join or refresh. -/
theorem Inv.latest_snoc (h : Inv crypto hostId labels s) {label : RosterLabel} {identity : List UInt8} {now : Nat}
    (hlabel : label = .join identity now ∨ ∃ unix, label = .refresh identity unix now) :
    ∀ m ∈ Expiry.insert s.members identity now, .join m.1 m.2 ∈ labels ++ [label] ∨
      ∃ unix, .refresh m.1 unix m.2 ∈ labels ++ [label] := by
  intro m hm
  rcases List.mem_cons.1 hm with rfl | hm
  · rcases hlabel with rfl | ⟨unix, rfl⟩
    · exact Or.inl (List.mem_append_right _ (List.mem_singleton.2 rfl))
    · exact Or.inr ⟨unix, List.mem_append_right _ (List.mem_singleton.2 rfl)⟩
  · rcases h.latest m (List.mem_filter.1 hm).1 with hjoin | ⟨unix, hrefresh⟩
    · exact Or.inl (List.mem_append_left _ hjoin)
    · exact Or.inr ⟨unix, List.mem_append_left _ hrefresh⟩

theorem Inv.joined_snoc (h : Inv crypto hostId labels s) {identity : List UInt8} {now : Nat} (hle : s.clock ≤ now)
    {who : List UInt8} {time : Nat} (hjoin : .join who time ∈ labels ∨ (who = identity ∧ time = now)) :
    ∃ m ∈ Expiry.insert s.members identity now, m.1 = who ∧ time ≤ m.2 := by
  by_cases hwho : who = identity
  · refine ⟨(identity, now), List.mem_cons_self, hwho.symm, ?_⟩
    rcases hjoin with hjoin | ⟨-, rfl⟩
    · exact Nat.le_trans (h.past _ hjoin) hle
    · exact Nat.le_refl _
  · have hold := hjoin.resolve_right (fun hnew => hwho hnew.1)
    obtain ⟨m, hm, hm1, hm2⟩ := h.joined who time hold
    have hkeep : decide (m.1 ≠ identity) = true := decide_eq_true (fun heq => hwho (hm1.symm.trans heq))
    exact ⟨m, List.mem_cons_of_mem _ (List.mem_filter.2 ⟨hm, hkeep⟩), hm1, hm2⟩

/-! ### What one label is heard as -/

theorem heard_join (identity : List UInt8) (now : Nat) (id : String) (time : Nat) :
    heard crypto hostId [.join identity now] id time ↔
      id ≠ hostId ∧ (guestProfile crypto identity).machineId = id ∧ time = now := by
  constructor
  · rintro (⟨hne, who, hm, hid⟩ | ⟨who, unix, hm, -⟩)
    · cases List.mem_singleton.1 hm
      exact ⟨hne, hid, rfl⟩
    · cases List.mem_singleton.1 hm
  · rintro ⟨hne, hid, rfl⟩
    exact Or.inl ⟨hne, identity, List.mem_singleton.2 rfl, hid⟩

theorem heard_refresh (hprobe : ∀ unix, (probeProfile unix).machineId ≠ hostId) (identity : List UInt8) (unix : UInt64)
    (now : Nat) (id : String) (time : Nat) :
    heard crypto hostId [.refresh identity unix now] id time ↔
      id ≠ hostId ∧ (probeProfile unix).machineId = id ∧ time = now := by
  constructor
  · rintro (⟨-, who, hm, -⟩ | ⟨who, seconds, hm, hid⟩)
    · cases List.mem_singleton.1 hm
    · cases List.mem_singleton.1 hm
      exact ⟨fun heq => hprobe unix (hid.trans heq), hid, rfl⟩
  · rintro ⟨-, hid, rfl⟩
    exact Or.inr ⟨identity, unix, List.mem_singleton.2 rfl, hid⟩

theorem not_heard_cleanup (now : Nat) (id : String) (time : Nat) : ¬ heard crypto hostId [.cleanup now] id time := by
  rintro (⟨-, who, hm, -⟩ | ⟨who, unix, hm, -⟩)
  · cases List.mem_singleton.1 hm
  · cases List.mem_singleton.1 hm

/-! ### Steps and runs -/

/-- **A visit of a member keeps the invariant**, at a join and at a refresh. -/
theorem Inv.visit (h : Inv crypto hostId labels s) {label : RosterLabel} {identity : List UInt8} {profile : PlayerProfile}
    (hlabel : label = .join identity label.time ∨ ∃ unix, label = .refresh identity unix label.time)
    (hvalid : profile.validate = true) (hle : s.clock ≤ label.time)
    (hheard : ∀ id time, heard crypto hostId [label] id time ↔
      id ≠ hostId ∧ profile.machineId = id ∧ time = label.time) :
    Inv crypto hostId (labels ++ [label]) ⟨(s.context.visit profile label.time).1,
      Expiry.insert s.members identity label.time, label.time⟩ where
  host := (ServerContext.visit_hostMachineId s.context profile label.time).trans h.host
  keyed := ServerContext.keyed_visit h.keyed hvalid label.time
  tracks := (h.tracks_visit hvalid hle).congr fun id time => by rw [heard_append, hheard]
  past := h.past_snoc hle
  latest := h.latest_snoc hlabel
  joined := by
    intro who time hjoin
    refine h.joined_snoc hle ?_
    rcases List.mem_append.1 hjoin with hjoin | hjoin
    · exact Or.inl hjoin
    · have hnow := List.mem_singleton.1 hjoin
      rcases hlabel with hlabel | ⟨unix, hlabel⟩
      · rw [hlabel] at hnow
        cases hnow
        exact Or.inr ⟨rfl, rfl⟩
      · rw [hlabel] at hnow
        cases hnow

/-- A cleanup keeps it too. -/
theorem Inv.cleanup (h : Inv crypto hostId labels s) {now : Nat} (hle : s.clock ≤ now) :
    Inv crypto hostId (labels ++ [.cleanup now]) { s with context := s.context.removeStaleGuests now, clock := now } where
  host := h.host
  keyed := ServerContext.keyed_removeStaleGuests h.keyed now
  tracks := by
    have hswept := h.tracks.sweep hle
    show Expiry.Tracks _ _ _ _ now
      (Expiry.sweep TrackedPlayer.lastSeen s.context.hostMachineId playerTimeout now s.context.players)
    rw [h.host]
    refine hswept.congr fun id time => ?_
    rw [heard_append]
    exact (or_iff_left (not_heard_cleanup now id time)).symm
  past := h.past_snoc hle
  latest := by
    intro m hm
    rcases h.latest m hm with hjoin | ⟨unix, hrefresh⟩
    · exact Or.inl (List.mem_append_left _ hjoin)
    · exact Or.inr ⟨unix, List.mem_append_left _ hrefresh⟩
  joined := by
    intro who time hjoin
    rcases List.mem_append.1 hjoin with hjoin | hjoin
    · exact h.joined who time hjoin
    · cases List.mem_singleton.1 hjoin

/-- **One step keeps the invariant.** -/
theorem step_inv (hprobe : ∀ unix, (probeProfile unix).machineId ≠ hostId) (h : Inv crypto hostId labels s)
    {label : RosterLabel} (hstep : step crypto s label = some t) : Inv crypto hostId (labels ++ [label]) t := by
  unfold step at hstep
  split at hstep
  · cases hstep
  · rename_i hclock
    have hle : s.clock ≤ label.time := Nat.not_lt.1 hclock
    cases label with
    | join identity now =>
      cases hstep
      exact h.visit (Or.inl rfl) (guestProfile_valid crypto identity) hle (heard_join identity now)
    | refresh identity unix now =>
      simp only at hstep
      split at hstep
      · cases hstep
      · cases hstep
        exact h.visit (Or.inr ⟨unix, rfl⟩) (probeProfile_valid unix) hle (heard_refresh hprobe identity unix now)
    | cleanup now =>
      cases hstep
      exact h.cleanup hle

/-- **A run keeps the invariant.** -/
theorem run_inv (hprobe : ∀ unix, (probeProfile unix).machineId ≠ hostId) :
    ∀ {more : List RosterLabel} {labels : List RosterLabel} {s t : Roster}, Inv crypto hostId labels s →
      Run.run (step crypto) s more = some t → Inv crypto hostId (labels ++ more) t
  | [], labels, s, t, h, hrun => by
    cases hrun
    rw [List.append_nil]
    exact h
  | label :: more, labels, s, t, h, hrun => by
    obtain ⟨u, hu, hrest⟩ := Run.run_cons hrun
    have ih := run_inv hprobe (step_inv hprobe h hu) hrest
    rwa [List.append_assoc] at ih

theorem opened_inv {host : PlayerProfile} {port now : Nat} {context : ServerContext}
    (hnew : ServerContext.new host port now = .ok context) : Inv crypto host.machineId [] (opened context now) := by
  obtain ⟨-, -, rfl⟩ := ServerContext.new_ok.1 hnew
  refine ⟨rfl, ?_, ⟨?_, ?_, ?_, ?_⟩, ?_, ?_, ?_⟩
  · intro e he
    rw [List.mem_singleton.1 he]
  · exact List.nodup_singleton _
  · exact List.mem_singleton.2 rfl
  · intro e he hne
    exact absurd (congrArg Prod.fst (List.mem_singleton.1 he)) hne
  · rintro id time - (⟨-, who, hm, -⟩ | ⟨who, unix, hm, -⟩) <;> cases hm
  · intro label hm
    cases hm
  · intro m hm
    cases hm
  · intro who time hm
    cases hm

/-! ## Behind a cleanup -/

/-- **Who is listed behind a cleanup**: the host, and what was heard in the last ten seconds. -/
theorem Inv.listed_cleanup (h : Inv crypto hostId labels s) {now : Nat} (hle : s.clock ≤ now) (id : String) :
    id ∈ (s.context.removeStaleGuests now).playerProfiles.map PlayerProfile.machineId ↔
      id = hostId ∨ ∃ time, heard crypto hostId labels id time ∧ now ≤ time + playerTimeout := by
  have hkeyed := ServerContext.keyed_removeStaleGuests h.keyed now
  rw [hkeyed.playerProfiles_perm.mem_iff]
  show id ∈ Expiry.keys (Expiry.sweep TrackedPlayer.lastSeen s.context.hostMachineId playerTimeout now
    s.context.players) ↔ _
  rw [h.host]
  exact h.tracks.mem_keys_sweep hle

theorem Inv.once_cleanup (h : Inv crypto hostId labels s) {now : Nat} (hle : s.clock ≤ now) :
    ((s.context.removeStaleGuests now).playerProfiles.map PlayerProfile.machineId).Nodup := by
  have hkeyed := ServerContext.keyed_removeStaleGuests h.keyed now
  have hnodup := (h.tracks.sweep hle).nodup
  refine hkeyed.playerProfiles_perm.nodup_iff.2 ?_
  show (Expiry.keys (Expiry.sweep TrackedPlayer.lastSeen s.context.hostMachineId playerTimeout now
    s.context.players)).Nodup
  rw [h.host]
  exact hnodup

/-- Without a recent refresh, what was heard lately are the members' joins. -/
theorem Inv.heard_iff_fresh (h : Inv crypto hostId labels s) {now : Nat}
    (hquiet : ∀ identity unix time, .refresh identity unix time ∈ labels → time + playerTimeout < now) {id : String}
    (hne : id ≠ hostId) : (∃ time, heard crypto hostId labels id time ∧ now ≤ time + playerTimeout) ↔
      ∃ m ∈ s.members, machineIdFromIdentity crypto m.1 = id ∧ now - m.2 ≤ playerTimeout := by
  constructor
  · rintro ⟨time, ⟨-, who, hjoin, hid⟩ | ⟨who, unix, hrefresh, -⟩, hlate⟩
    · obtain ⟨m, hm, hm1, hm2⟩ := h.joined who time hjoin
      refine ⟨m, hm, ?_, by omega⟩
      rw [hm1]
      exact hid
    · have := hquiet who unix time hrefresh
      omega
  · rintro ⟨m, hm, hid, hfresh⟩
    rcases h.latest m hm with hjoin | ⟨unix, hrefresh⟩
    · exact ⟨m.2, Or.inl ⟨hne, m.1, hjoin, hid⟩, by omega⟩
    · have := hquiet m.1 unix m.2 hrefresh
      omega

/-- **The roster is right behind a cleanup if, and only if, no refresh reached the host in the ten seconds before it.** -/
theorem roster_is_accurate_iff (crypto : Crypto) (host : List UInt8) (port started : Nat) (context : ServerContext)
    (hnew : ServerContext.new (hostProfile crypto host) port started = .ok context) (labels : List RosterLabel)
    (now : Nat) (s : Roster)
    (hrun : Run.run (step crypto) (opened context started) (labels ++ [.cleanup now]) = some s) :
    s.Accurate crypto ↔
      ∀ identity unix time, .refresh identity unix time ∈ labels → time + playerTimeout < now := by
  obtain ⟨u, hu, hlast⟩ := Run.run_append hrun
  obtain ⟨v, hcleanup, hv⟩ := Run.run_cons hlast
  cases hv
  have hprobe : ∀ unix, (probeProfile unix).machineId ≠ (hostProfile crypto host).machineId :=
    fun unix => probeId_ne crypto host unix
  have hinv : Inv crypto (hostProfile crypto host).machineId labels u := run_inv hprobe (opened_inv hnew) hu
  unfold step at hcleanup
  split at hcleanup
  · cases hcleanup
  · rename_i hclock
    cases hcleanup
    have hle : u.clock ≤ now := Nat.not_lt.1 hclock
    constructor
    · -- a probe heard lately would be listed, and it is nobody's machine id
      intro haccurate identity unix time hrefresh
      by_contra hlate
      have hheard : heard crypto (hostProfile crypto host).machineId labels (probeProfile unix).machineId time :=
        Or.inr ⟨identity, unix, hrefresh, rfl⟩
      have hlisted := (hinv.listed_cleanup hle (probeProfile unix).machineId).2 (Or.inr ⟨time, hheard, by omega⟩)
      rcases (haccurate.listed _).1 hlisted with hid | ⟨m, -, hid, -⟩
      · exact hprobe unix (hid.trans hinv.host)
      · exact probeId_ne crypto m.1 unix hid.symm
    · intro hquiet
      refine ⟨hinv.once_cleanup hle, fun id => ?_⟩
      show id ∈ (u.context.removeStaleGuests now).playerProfiles.map PlayerProfile.machineId ↔
        id = u.context.hostMachineId ∨
          ∃ m ∈ u.members, machineIdFromIdentity crypto m.1 = id ∧ now - m.2 ≤ playerTimeout
      rw [hinv.listed_cleanup hle, hinv.host]
      by_cases hne : id = (hostProfile crypto host).machineId
      · simp only [hne, true_or]
      · rw [hinv.heard_iff_fresh hquiet hne]

/-! ## Two runs -/

def hostIdentity : List UInt8 := List.replicate 32 9

def guestIdentity : List UInt8 := List.replicate 32 7

/-- SHA-256 of the two identities. -/
def sampleSha256 (bytes : List UInt8) : Vector UInt8 32 :=
  if bytes = hostIdentity then #v[140, 12, 193, 122, 4, 148, 44, 196, 248, 224, 254, 11, 48, 38, 6, 211, 16, 136,
    96, 193, 38, 66, 139, 162, 206, 235, 95, 158, 212, 28, 43, 5]
  else if bytes = guestIdentity then #v[75, 176, 111, 142, 78, 58, 119, 21, 210, 1, 213, 115, 208, 170, 66, 55, 98, 229,
    93, 171, 214, 26, 44, 2, 39, 143, 165, 108, 198, 210, 148, 224]
  else Vector.replicate 32 0

def sampleCrypto : Crypto := ⟨sampleSha256, fun _ _ => Vector.replicate 32 0⟩

def sampleContext : ServerContext :=
  ⟨25565, machineIdFromIdentity sampleCrypto hostIdentity,
    [(machineIdFromIdentity sampleCrypto hostIdentity, ⟨hostProfile sampleCrypto hostIdentity, 0⟩)]⟩

theorem sampleContext_new : ServerContext.new (hostProfile sampleCrypto hostIdentity) 25565 0 = .ok sampleContext :=
  ServerContext.new_ok.2 ⟨by decide, hostProfile_valid _ _, rfl⟩

/-- A member refreshes, and comes back later. -/
def comesBack : List RosterLabel :=
  [.join guestIdentity 0, .refresh guestIdentity 1700000000 1000000000, .join guestIdentity 12000000000]

theorem member_is_listed : ∃ s,
    Run.run (step sampleCrypto) (opened sampleContext 0) (comesBack ++ [.cleanup 20000000000]) = some s ∧
      s.Accurate sampleCrypto := by
  have hruns : (Run.run (step sampleCrypto) (opened sampleContext 0) (comesBack ++ [.cleanup 20000000000])).isSome =
      true := by decide
  obtain ⟨s, hs⟩ := Option.isSome_iff_exists.1 hruns
  refine ⟨s, hs, (roster_is_accurate_iff sampleCrypto hostIdentity 25565 0 sampleContext sampleContext_new comesBack
    20000000000 s hs).2 ?_⟩
  intro identity unix time hrefresh
  simp only [comesBack, List.mem_cons, RosterLabel.refresh.injEq, reduceCtorEq, List.not_mem_nil, or_false,
    false_or] at hrefresh
  rw [hrefresh.2.2]
  decide

/-- A member that refreshes before a cleanup. -/
def refreshes : List RosterLabel :=
  [.join guestIdentity 0, .refresh guestIdentity 1700000000 8000000000, .cleanup 12000000000]

/-- **The refresh does not keep its member on the roster**: four seconds later the member is gone, and a player that
nobody is stands in its place. -/
theorem refresh_loses_its_member : ∃ s, Run.run (step sampleCrypto) (opened sampleContext 0) refreshes = some s ∧
    s.context.playerProfiles.map PlayerProfile.machineId =
      [machineIdFromIdentity sampleCrypto hostIdentity, "probe-1700000000"] ∧
    s.members = [(guestIdentity, 8000000000)] ∧ ¬ s.Accurate sampleCrypto := by
  have hruns : (Run.run (step sampleCrypto) (opened sampleContext 0) refreshes).any (fun s =>
      decide (s.context.playerProfiles.map PlayerProfile.machineId =
        [machineIdFromIdentity sampleCrypto hostIdentity, "probe-1700000000"]) &&
      decide (s.members = [(guestIdentity, 8000000000)]) && decide (s.clock = 12000000000)) = true := by
    decide
  obtain ⟨s, hs, hseen⟩ := (Option.any_eq_true _ _).1 hruns
  simp only [Bool.and_eq_true, decide_eq_true_eq] at hseen
  obtain ⟨⟨hids, hmembers⟩, hclock⟩ := hseen
  refine ⟨s, hs, hids, hmembers, fun haccurate => ?_⟩
  have hfresh : s.clock - 8000000000 ≤ playerTimeout := by
    rw [hclock]
    decide
  have hmember : (guestIdentity, 8000000000) ∈ s.members := by
    rw [hmembers]
    exact List.mem_singleton.2 rfl
  have hlisted := (haccurate.listed (machineIdFromIdentity sampleCrypto guestIdentity)).2
    (Or.inr ⟨_, hmember, rfl, hfresh⟩)
  rw [hids] at hlisted
  exact absurd hlisted (by decide)

end Roster

end Terracotta
