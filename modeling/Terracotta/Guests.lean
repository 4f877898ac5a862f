import Terracotta.Scaffolding
/-!
# The roster under arbitrary pings (`scaffolding/server.rs`)

Whoever reaches the Scaffolding server chooses every field of the profiles it sends, and when.  The server keeps the
latest profile of each machine id that passed its checks, as a guest's, and never touches the host's.
-/
namespace Terracotta

/-- What changes a roster: a ping with the clock value of its arrival, and a cleanup. -/
inductive GuestCall where
  | recordGuest (profile : PlayerProfile) (now : Nat)
  | removeStaleGuests (now : Nat)
deriving DecidableEq

def GuestCall.time : GuestCall → Nat
  | .recordGuest _ now | .removeStaleGuests now => now

/-- The profile and the time of a ping that is accepted. -/
def GuestCall.accepted (hostMachineId : String) : GuestCall → Option TrackedPlayer
  | .recordGuest profile now =>
    if profile.validate ∧ profile.machineId ≠ hostMachineId then some ⟨{ profile with kind := some .guest }, now⟩ else none
  | .removeStaleGuests _ => none

/-- **The latest accepted ping of a machine id.** -/
def latestPing (hostMachineId : String) (calls : List GuestCall) (machineId : String) : Option TrackedPlayer :=
  ((calls.filterMap (GuestCall.accepted hostMachineId)).filter (fun t => t.profile.machineId = machineId)).getLast?

namespace ServerContext

def apply (c : ServerContext) : GuestCall → ServerContext
  | .recordGuest profile now => (c.recordGuest profile now).toOption.getD c
  | .removeStaleGuests now => c.removeStaleGuests now

/-- The roster behind calls made one after another. -/
def runGuests (c : ServerContext) (calls : List GuestCall) : ServerContext := calls.foldl apply c

/-! ## One call -/

variable {c : ServerContext} {profile : PlayerProfile} {now : Nat}

/-- **What a ping does**: nothing where it is refused, and an entry of a guest where it is accepted. -/
theorem apply_recordGuest : c.apply (.recordGuest profile now) =
    match GuestCall.accepted c.hostMachineId (.recordGuest profile now) with
    | some tracked => { c with players := Expiry.insert c.players tracked.profile.machineId tracked }
    | none => c := by
  unfold apply GuestCall.accepted recordGuest
  by_cases hvalid : profile.validate = true
  · by_cases hhost : profile.machineId = c.hostMachineId
    · simp [hvalid, hhost, Except.toOption]
    · simp [hvalid, hhost, Except.toOption]
  · simp [hvalid, Except.toOption]

@[simp] theorem apply_hostMachineId (c : ServerContext) (call : GuestCall) :
    (c.apply call).hostMachineId = c.hostMachineId := by
  cases call with
  | recordGuest profile now =>
    rw [apply_recordGuest]
    split <;> rfl
  | removeStaleGuests now => rfl

@[simp] theorem apply_minecraftPort (c : ServerContext) (call : GuestCall) :
    (c.apply call).minecraftPort = c.minecraftPort := by
  cases call with
  | recordGuest profile now =>
    rw [apply_recordGuest]
    split <;> rfl
  | removeStaleGuests now => rfl

theorem accepted_eq_some {hostMachineId : String} {call : GuestCall} {tracked : TrackedPlayer}
    (h : call.accepted hostMachineId = some tracked) :
    tracked.profile.validate = true ∧ tracked.profile.machineId ≠ hostMachineId ∧
      tracked.profile.kind = some .guest ∧ tracked.lastSeen = call.time := by
  cases call with
  | recordGuest profile now =>
    simp only [GuestCall.accepted] at h
    split at h
    · rename_i hok
      cases h
      exact ⟨hok.1, hok.2, rfl, rfl⟩
    · cases h
  | removeStaleGuests now => cases h

/-! ## A run of calls -/

/-- The latest entry of every machine id: the host's own, and what the accepted pings left. -/
def latest (hostMachineId : String) (entry : TrackedPlayer) (calls : List GuestCall) (machineId : String) :
    Option TrackedPlayer :=
  if machineId = hostMachineId then some entry else latestPing hostMachineId calls machineId

theorem latestPing_append (hostMachineId : String) (calls : List GuestCall) (call : GuestCall) (machineId : String) :
    latestPing hostMachineId (calls ++ [call]) machineId =
      match call.accepted hostMachineId with
      | some tracked =>
        if tracked.profile.machineId = machineId then some tracked else latestPing hostMachineId calls machineId
      | none => latestPing hostMachineId calls machineId := by
  unfold latestPing
  rw [List.filterMap_append, List.filter_append]
  cases haccepted : call.accepted hostMachineId with
  | none => simp [haccepted]
  | some tracked =>
    by_cases hid : tracked.profile.machineId = machineId
    · simp [haccepted, hid]
    · simp [haccepted, hid]

/-- **The invariant of a run**, with the calls so far. -/
structure Guests (hostMachineId : String) (entry : TrackedPlayer) (calls : List GuestCall) (clock : Nat)
    (c : ServerContext) : Prop where
  host : c.hostMachineId = hostMachineId
  recalls : Expiry.Recalls TrackedPlayer.lastSeen hostMachineId playerTimeout (latest hostMachineId entry calls) clock
    c.players

variable {hostMachineId : String} {entry : TrackedPlayer} {calls : List GuestCall} {clock : Nat}

/-- An accepted ping is the latest of its machine id. -/
theorem latest_update {call : GuestCall} {tracked : TrackedPlayer} (h : call.accepted hostMachineId = some tracked) :
    Function.update (latest hostMachineId entry calls) tracked.profile.machineId (some tracked) =
      latest hostMachineId entry (calls ++ [call]) := by
  obtain ⟨-, hne, -, -⟩ := accepted_eq_some h
  funext machineId
  unfold latest
  rw [latestPing_append, h]
  by_cases hid : machineId = tracked.profile.machineId
  · subst hid
    rw [Function.update_self, if_neg hne]
    simp
  · rw [Function.update_of_ne hid]
    simp only [if_neg (Ne.symm hid)]

theorem latest_of_refused {call : GuestCall} (h : call.accepted hostMachineId = none) :
    latest hostMachineId entry (calls ++ [call]) = latest hostMachineId entry calls := by
  funext machineId
  unfold latest
  rw [latestPing_append, h]

/-- **One call keeps the invariant.** -/
theorem Guests.apply (h : Guests hostMachineId entry calls clock c) {call : GuestCall} (hle : clock ≤ call.time) :
    Guests hostMachineId entry (calls ++ [call]) call.time (c.apply call) where
  host := (apply_hostMachineId c call).trans h.host
  recalls := by
    cases call with
    | recordGuest profile now =>
      rw [apply_recordGuest, h.host]
      cases haccepted : GuestCall.accepted hostMachineId (.recordGuest profile now) with
      | none =>
        rw [latest_of_refused haccepted]
        exact h.recalls.later hle
      | some tracked =>
        rw [← latest_update haccepted]
        exact h.recalls.insert hle _ _
    | removeStaleGuests now =>
      rw [latest_of_refused rfl]
      show Expiry.Recalls _ _ _ _ now (Expiry.sweep TrackedPlayer.lastSeen c.hostMachineId playerTimeout now c.players)
      rw [h.host]
      exact h.recalls.sweep hle

/-- **A run keeps the invariant**, at clock values that do not fall. -/
theorem Guests.run : ∀ {more calls : List GuestCall} {clock : Nat} {c : ServerContext},
    Guests hostMachineId entry calls clock c → (clock :: more.map GuestCall.time).Pairwise (· ≤ ·) →
      ∃ last, (∀ now, clock ≤ now → (∀ call ∈ more, call.time ≤ now) → last ≤ now) ∧
        Guests hostMachineId entry (calls ++ more) last (c.runGuests more)
  | [], calls, clock, c, h, _ => ⟨clock, fun _ hle _ => hle, by rw [List.append_nil]; exact h⟩
  | call :: more, calls, clock, c, h, hordered => by
    obtain ⟨hhead, htail⟩ := List.pairwise_cons.1 hordered
    have hle : clock ≤ call.time := hhead _ (List.mem_map_of_mem List.mem_cons_self)
    obtain ⟨last, hlast, hguests⟩ := (h.apply hle).run htail
    refine ⟨last, fun now _ hall => ?_, ?_⟩
    · exact hlast now (hall call List.mem_cons_self) fun x hx => hall x (List.mem_cons_of_mem _ hx)
    · rw [List.append_assoc] at hguests
      exact hguests

/-- **A new roster** knows the host. -/
theorem guests_new {host : PlayerProfile} {port started : Nat} (hnew : new host port started = .ok c) :
    host.validate = true ∧ Guests host.machineId ⟨{ host with kind := some .host }, started⟩ [] started c := by
  obtain ⟨-, hvalid, rfl⟩ := new_ok.1 hnew
  refine ⟨hvalid, rfl, ⟨List.nodup_singleton _, ?_, ?_⟩⟩
  · intro e he
    rw [List.mem_singleton.1 he]
    exact if_pos rfl
  · intro machineId value hlatest
    unfold latest at hlatest
    split at hlatest
    · rename_i hid
      cases hlatest
      rw [hid]
      exact Or.inl (List.mem_singleton.2 rfl)
    · cases hlatest

/-! ## The entries behind a run -/

/-- **What the entries are**: the host's own, and guests' under their own machine ids. -/
theorem Guests.of_mem (h : Guests hostMachineId entry calls clock c) {e : String × TrackedPlayer} (he : e ∈ c.players)
    (hne : e.1 ≠ hostMachineId) :
    e.2.profile.machineId = e.1 ∧ e.2.profile.validate = true ∧ e.2.profile.kind = some .guest := by
  have hlatest := h.recalls.known e he
  unfold latest at hlatest
  rw [if_neg hne] at hlatest
  obtain ⟨hmem, hid⟩ := List.mem_filter.1 (List.mem_of_getLast? hlatest)
  obtain ⟨call, -, haccepted⟩ := List.mem_filterMap.1 hmem
  obtain ⟨hvalid, -, hkind, -⟩ := accepted_eq_some haccepted
  exact ⟨of_decide_eq_true hid, hvalid, hkind⟩

theorem Guests.mem_host (h : Guests hostMachineId entry calls clock c) {tracked : TrackedPlayer} :
    (hostMachineId, tracked) ∈ c.players ↔ tracked = entry := by
  rw [h.recalls.mem_stays]
  unfold latest
  rw [if_pos rfl, Option.some.injEq, eq_comm]

theorem Guests.keyed (h : Guests hostMachineId entry calls clock c) (hentry : entry.profile.machineId = hostMachineId) :
    c.Keyed := by
  intro e he
  by_cases hne : e.1 = hostMachineId
  · obtain ⟨id, tracked⟩ := e
    obtain rfl : id = hostMachineId := hne
    rw [h.mem_host.1 he]
    exact hentry
  · exact (h.of_mem he hne).1

/-- **The guests behind a cleanup** are the ones whose latest accepted ping is recent. -/
theorem Guests.mem_removeStaleGuests (h : Guests hostMachineId entry calls clock c) (hle : clock ≤ now)
    {machineId : String} {tracked : TrackedPlayer} (hne : machineId ≠ hostMachineId) :
    (machineId, tracked) ∈ (c.removeStaleGuests now).players ↔
      latestPing hostMachineId calls machineId = some tracked ∧ now ≤ tracked.lastSeen + playerTimeout := by
  unfold removeStaleGuests
  rw [h.host, h.recalls.mem_sweep hle]
  unfold latest
  rw [if_neg hne]
  exact and_congr_right fun _ => or_iff_right hne

/-- Who is refused. -/
theorem recordGuest_refused : (∃ e, c.recordGuest profile now = .error e) ↔
    (profile.validate = false ∨ profile.machineId = c.hostMachineId) := by
  unfold recordGuest
  rw [← Bool.not_eq_true' profile.validate]
  split
  · rename_i hrefused
    exact ⟨fun _ => hrefused, fun _ => ⟨_, rfl⟩⟩
  · rename_i haccepted
    exact ⟨fun ⟨_, he⟩ => (by cases he), fun hrefused => absurd hrefused haccepted⟩

theorem apply_of_refused {e : ScaffoldingError} (h : c.recordGuest profile now = .error e) :
    c.apply (.recordGuest profile now) = c := by
  unfold apply
  simp only [h, Except.toOption, Option.getD_none]

/-! ## The order of the list -/

theorem precedes_iff {left right : PlayerProfile} : precedes left right = true ↔
    playerOrder left < playerOrder right ∨ (playerOrder left = playerOrder right ∧ left.machineId ≤ right.machineId) := by
  unfold precedes
  split
  · rename_i heq
    rw [decide_eq_true_eq]
    exact ⟨fun hle => Or.inr ⟨heq, hle⟩, fun h => h.elim (fun hlt => absurd heq (Nat.ne_of_lt hlt)) And.right⟩
  · rename_i hne
    rw [decide_eq_true_eq]
    exact ⟨Or.inl, fun h => h.elim id fun heq => absurd heq.1 hne⟩

instance : Std.Total (fun left right : PlayerProfile => precedes left right = true) where
  total left right := by
    rw [precedes_iff, precedes_iff]
    rcases Nat.lt_trichotomy (playerOrder left) (playerOrder right) with hlt | heq | hgt
    · exact Or.inl (Or.inl hlt)
    · exact (le_total left.machineId right.machineId).imp (fun hle => Or.inr ⟨heq, hle⟩) fun hle => Or.inr ⟨heq.symm, hle⟩
    · exact Or.inr (Or.inl hgt)

instance : IsTrans PlayerProfile (fun left right => precedes left right = true) where
  trans a b c hab hbc := by
    rw [precedes_iff] at hab hbc ⊢
    rcases hab with hab | ⟨hab, hidab⟩
    · rcases hbc with hbc | ⟨hbc, -⟩
      · exact Or.inl (Nat.lt_trans hab hbc)
      · exact Or.inl (hbc ▸ hab)
    · rcases hbc with hbc | ⟨hbc, hidbc⟩
      · exact Or.inl (hab ▸ hbc)
      · exact Or.inr ⟨hab.trans hbc, le_trans hidab hidbc⟩

theorem playerProfiles_sorted (c : ServerContext) :
    c.playerProfiles.Pairwise (fun left right => precedes left right = true) := List.pairwise_insertionSort _ _

theorem playerProfiles_perm (c : ServerContext) : c.playerProfiles.Perm (c.players.map (fun e => e.2.profile)) :=
  List.perm_insertionSort _ _

/-- **The host, then the guests by their machine ids**, none of them twice. -/
theorem Guests.playerProfiles (h : Guests hostMachineId entry calls clock c)
    (hid : entry.profile.machineId = hostMachineId) (hkind : entry.profile.kind = some .host) :
    ∃ guests, c.playerProfiles = entry.profile :: guests ∧
      guests.Pairwise (fun left right => left.machineId < right.machineId) := by
  have hsorted := playerProfiles_sorted c
  have hnodup : (c.playerProfiles.map PlayerProfile.machineId).Nodup :=
    (h.keyed hid).playerProfiles_perm.nodup_iff.2 h.recalls.nodup
  have hmem : ∀ p ∈ c.playerProfiles, p = entry.profile ∨ (p.kind = some .guest ∧ p.machineId ≠ hostMachineId) := by
    intro p hp
    obtain ⟨e, he, rfl⟩ := List.mem_map.1 ((playerProfiles_perm c).mem_iff.1 hp)
    by_cases hne : e.1 = hostMachineId
    · obtain ⟨id, tracked⟩ := e
      obtain rfl : id = hostMachineId := hne
      exact Or.inl (congrArg TrackedPlayer.profile (h.mem_host.1 he))
    · obtain ⟨hkey, -, hguest⟩ := h.of_mem he hne
      exact Or.inr ⟨hguest, fun heq => hne (hkey.symm.trans heq)⟩
  have hhost : entry.profile ∈ c.playerProfiles :=
    (playerProfiles_perm c).mem_iff.2 (List.mem_map.2 ⟨_, h.mem_host.2 rfl, rfl⟩)
  cases hlist : c.playerProfiles with
  | nil =>
    rw [hlist] at hhost
    cases hhost
  | cons first guests =>
    rw [hlist] at hsorted hnodup hmem hhost
    rw [List.map_cons, List.nodup_cons] at hnodup
    obtain ⟨hfirst, hrest⟩ := List.pairwise_cons.1 hsorted
    have hhead : first = entry.profile := by
      rcases List.mem_cons.1 hhost with heq | hlater
      · exact heq.symm
      · -- a guest is not before the host
        refine (hmem first List.mem_cons_self).resolve_right fun hguest => ?_
        have hprecedes := precedes_iff.1 (hfirst _ hlater)
        simp only [playerOrder, hguest.1, hkind] at hprecedes
        omega
    subst hhead
    have hguest : ∀ p ∈ guests, p.kind = some .guest := by
      intro p hp
      refine ((hmem p (List.mem_cons_of_mem _ hp)).resolve_left ?_).1
      rintro rfl
      exact hnodup.1 (List.mem_map_of_mem hp)
    refine ⟨guests, rfl, ?_⟩
    have hne : guests.Pairwise (fun left right => left.machineId ≠ right.machineId) := List.pairwise_map.1 hnodup.2
    refine (hrest.and hne).imp_of_mem ?_
    intro left right hleft hright hboth
    have hprecedes := precedes_iff.1 hboth.1
    simp only [playerOrder, hguest left hleft, hguest right hright] at hprecedes
    have hle : left.machineId ≤ right.machineId := by
      rcases hprecedes with hlt | hle
      · exact absurd hlt (Nat.lt_irrefl _)
      · exact hle.2
    exact lt_of_le_of_ne hle hboth.2

end ServerContext

/-- **The roster of a host, behind any pings and cleanups**: the host's entry is the one it was made with; every other
entry is a valid guest's under its own machine id; who is refused changes nothing; a cleanup leaves the guests whose
latest accepted ping is at most ten seconds old; and the list has the host first and the guests by their machine ids. -/
theorem roster_under_any_pings {host : PlayerProfile} {minecraftPort started : Nat} {context : ServerContext}
    (hnew : ServerContext.new host minecraftPort started = .ok context) {calls : List GuestCall}
    (hordered : (started :: calls.map GuestCall.time).Pairwise (· ≤ ·)) :
    let c := context.runGuests calls
    let entry : TrackedPlayer := ⟨{ host with kind := some .host }, started⟩
    (∀ tracked, (host.machineId, tracked) ∈ c.players ↔ tracked = entry) ∧
    (∀ e ∈ c.players, e.1 ≠ host.machineId →
      e.2.profile.machineId = e.1 ∧ e.2.profile.validate = true ∧ e.2.profile.kind = some .guest) ∧
    (∀ profile now, ((∃ e, c.recordGuest profile now = .error e) ↔
        profile.validate = false ∨ profile.machineId = host.machineId) ∧
      ((∃ e, c.recordGuest profile now = .error e) → c.apply (.recordGuest profile now) = c)) ∧
    (∀ now, started ≤ now → (∀ call ∈ calls, call.time ≤ now) → ∀ machineId tracked, machineId ≠ host.machineId →
      ((machineId, tracked) ∈ (c.removeStaleGuests now).players ↔
        latestPing host.machineId calls machineId = some tracked ∧ now ≤ tracked.lastSeen + playerTimeout)) ∧
    (∃ guests, c.playerProfiles = entry.profile :: guests ∧
      guests.Pairwise (fun left right => left.machineId < right.machineId)) ∧
    c.playerProfiles.Perm (c.players.map (fun e => e.2.profile)) := by
  intro c entry
  obtain ⟨-, hstart⟩ := ServerContext.guests_new hnew
  obtain ⟨last, hlast, hguests⟩ := hstart.run hordered
  rw [List.nil_append] at hguests
  refine ⟨fun tracked => hguests.mem_host, fun e he hne => hguests.of_mem he hne, fun profile now => ⟨?_, ?_⟩,
    fun now hstarted hcalls machineId tracked hne => ?_, hguests.playerProfiles rfl rfl,
    ServerContext.playerProfiles_perm _⟩
  · rw [← hguests.host]
    exact ServerContext.recordGuest_refused
  · rintro ⟨e, he⟩
    exact ServerContext.apply_of_refused he
  · exact hguests.mem_removeStaleGuests (hlast now hstarted hcalls) hne

/-- A guest that claims to be the host, and a cleanup. -/
theorem forged_host_is_a_guest :
    let host : PlayerProfile := ⟨"Host", "host-machine", "PCL N Terracotta", some .guest⟩
    let calls : List GuestCall := [.recordGuest ⟨"Guest", "guest-machine", "PCL CE", some .host⟩ 3, .removeStaleGuests 5]
    let context : ServerContext := ⟨25565, "host-machine", [("host-machine", ⟨{ host with kind := some .host }, 0⟩)]⟩
    ServerContext.new host 25565 0 = .ok context ∧
      ∃ guests, (context.runGuests calls).playerProfiles = { host with kind := some .host } :: guests ∧
        guests.Pairwise (fun left right => left.machineId < right.machineId) := by
  intro host calls context
  have hnew : ServerContext.new host 25565 0 = .ok context := by decide
  have hordered : (0 :: calls.map GuestCall.time).Pairwise (· ≤ ·) := by decide
  exact ⟨hnew, (roster_under_any_pings hnew hordered).2.2.2.2.1⟩

end Terracotta
