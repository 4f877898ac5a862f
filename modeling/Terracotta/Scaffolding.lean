import Terracotta.Credentials
import Terracotta.Expiry
/-!
# The host's roster (`scaffolding/server.rs`, `scaffolding/model.rs`, `scaffolding/client.rs`)

A host keeps the players it has heard of by their machine ids.  A guest is heard of by a `c:player_ping`, and forgotten
by a cleanup ten seconds after its last one.  Clock values are in nanoseconds.
-/
namespace Terracotta

inductive PlayerKind where
  | host | guest
deriving DecidableEq

structure PlayerProfile where
  name : String
  machineId : String
  vendor : String
  kind : Option PlayerKind
deriving DecidableEq

def validText (value : String) (maximumLength : Nat) : Bool :=
  !(Text.trim value.toList).isEmpty && decide (Text.utf8Len value.toList ≤ maximumLength) &&
    !value.toList.any Text.isControl

def PlayerProfile.validate (p : PlayerProfile) : Bool :=
  validText p.name 64 && validText p.machineId 128 && validText p.vendor 256

inductive ScaffoldingError where
  | io (error : String)
  | invalidFrame (text : String)
deriving DecidableEq

def ScaffoldingError.toString : ScaffoldingError → String
  | .io error => "Scaffolding I/O failed: " ++ error
  | .invalidFrame text => "Invalid Scaffolding frame: " ++ text

/-- `PLAYER_TIMEOUT`, ten seconds. -/
def playerTimeout : Nat := 10 * 1000000000

structure TrackedPlayer where
  profile : PlayerProfile
  lastSeen : Nat
deriving DecidableEq

structure ServerContext where
  minecraftPort : Nat
  hostMachineId : String
  players : List (String × TrackedPlayer) -- a `HashMap`: no key twice
deriving DecidableEq

namespace ServerContext

def new (host : PlayerProfile) (minecraftPort now : Nat) : Except ScaffoldingError ServerContext :=
  if minecraftPort = 0 then .error (.invalidFrame "Minecraft server port must be non-zero")
  else if !host.validate then .error (.invalidFrame "host profile contains invalid text")
  else .ok ⟨minecraftPort, host.machineId, [(host.machineId, ⟨{ host with kind := some .host }, now⟩)]⟩

theorem new_ok {host : PlayerProfile} {minecraftPort now : Nat} {c : ServerContext} :
    new host minecraftPort now = .ok c ↔ minecraftPort ≠ 0 ∧ host.validate = true ∧
      c = ⟨minecraftPort, host.machineId, [(host.machineId, ⟨{ host with kind := some .host }, now⟩)]⟩ := by
  unfold new
  by_cases hport : minecraftPort = 0
  · simp [hport]
  · by_cases hvalid : host.validate = true
    · simp [hport, hvalid, eq_comm]
    · simp [hport, hvalid]

def playerOrder (p : PlayerProfile) : Nat :=
  match p.kind with
  | some .host => 0
  | _ => 1

/-- The order of `player_profiles`: the host first, then by machine id. -/
def precedes (left right : PlayerProfile) : Bool :=
  if playerOrder left = playerOrder right then decide (left.machineId ≤ right.machineId)
  else decide (playerOrder left < playerOrder right)

def playerProfiles (c : ServerContext) : List PlayerProfile :=
  (c.players.map (fun e => e.2.profile)).insertionSort (fun left right => precedes left right = true)

def recordGuest (c : ServerContext) (profile : PlayerProfile) (now : Nat) : Except ScaffoldingError ServerContext :=
  if !profile.validate ∨ profile.machineId = c.hostMachineId then
    .error (.invalidFrame "guest profile is invalid or collides with the host identity")
  else .ok { c with
    players := Expiry.insert c.players profile.machineId ⟨{ profile with kind := some .guest }, now⟩ }

def removeStaleGuests (c : ServerContext) (now : Nat) : ServerContext :=
  { c with players := Expiry.sweep TrackedPlayer.lastSeen c.hostMachineId playerTimeout now c.players }

/-- `ScaffoldingClient::connect` and a `heartbeat` on it, over a connection that is made: one ping, and another with the
list of players behind it. -/
def visit (c : ServerContext) (profile : PlayerProfile) (now : Nat) : ServerContext × Option (List PlayerProfile) :=
  if !profile.validate then (c, none)
  else match c.recordGuest profile now with
    | .error _ => (c, none)
    | .ok c => match c.recordGuest profile now with
      | .error _ => (c, none)
      | .ok c => (c, if c.playerProfiles.any (fun p => !p.validate) then none else some c.playerProfiles)

/-! ### What they do to the roster -/

theorem recordGuest_eq {c : ServerContext} {profile : PlayerProfile} (hvalid : profile.validate = true)
    (hne : profile.machineId ≠ c.hostMachineId) (now : Nat) :
    c.recordGuest profile now = .ok { c with
      players := Expiry.insert c.players profile.machineId ⟨{ profile with kind := some .guest }, now⟩ } := by
  unfold recordGuest
  rw [if_neg (by simp [hvalid, hne])]

/-- The two pings of a visit leave one entry. -/
theorem visit_heard {c : ServerContext} {profile : PlayerProfile} (hvalid : profile.validate = true)
    (hne : profile.machineId ≠ c.hostMachineId) (now : Nat) :
    (c.visit profile now).1 = { c with
      players := Expiry.insert c.players profile.machineId ⟨{ profile with kind := some .guest }, now⟩ } := by
  have hinvalid : ¬ (!profile.validate) = true := by simp [hvalid]
  have hping : ∀ players, ServerContext.recordGuest { c with players := players } profile now = .ok { c with
      players := Expiry.insert players profile.machineId ⟨{ profile with kind := some .guest }, now⟩ } :=
    fun players => recordGuest_eq (c := { c with players := players }) hvalid hne now
  unfold visit
  rw [if_neg hinvalid, hping c.players]
  simp only
  rw [hping]
  simp only
  rw [Expiry.insert_insert]

/-- A visit under the host's machine id is refused. -/
theorem visit_host {c : ServerContext} {profile : PlayerProfile} (heq : profile.machineId = c.hostMachineId) (now : Nat) :
    (c.visit profile now).1 = c := by
  have hrefused : ∃ e, c.recordGuest profile now = .error e := by
    unfold recordGuest
    rw [if_pos (Or.inr heq)]
    exact ⟨_, rfl⟩
  obtain ⟨e, he⟩ := hrefused
  unfold visit
  rw [he]
  split <;> rfl

theorem visit_hostMachineId (c : ServerContext) (profile : PlayerProfile) (now : Nat) :
    (c.visit profile now).1.hostMachineId = c.hostMachineId := by
  by_cases hvalid : profile.validate = true
  · by_cases heq : profile.machineId = c.hostMachineId
    · rw [visit_host heq]
    · rw [visit_heard hvalid heq]
  · unfold visit
    rw [if_pos (by simp [hvalid])]

/-- Every player is kept under its own machine id. -/
def Keyed (c : ServerContext) : Prop := ∀ e ∈ c.players, e.2.profile.machineId = e.1

theorem keyed_visit {c : ServerContext} (h : c.Keyed) {profile : PlayerProfile} (hvalid : profile.validate = true)
    (now : Nat) : (c.visit profile now).1.Keyed := by
  by_cases heq : profile.machineId = c.hostMachineId
  · rw [visit_host heq]
    exact h
  · rw [visit_heard hvalid heq]
    intro e he
    rcases List.mem_cons.1 he with rfl | he
    · rfl
    · exact h e (List.mem_filter.1 he).1

theorem keyed_removeStaleGuests {c : ServerContext} (h : c.Keyed) (now : Nat) : (c.removeStaleGuests now).Keyed :=
  fun e he => h e (List.mem_filter.1 he).1

/-- **`player_profiles` lists the keys of the roster**, in its own order. -/
theorem Keyed.playerProfiles_perm {c : ServerContext} (h : c.Keyed) :
    (c.playerProfiles.map PlayerProfile.machineId).Perm (Expiry.keys c.players) := by
  have hkeys : (c.players.map (fun e => e.2.profile)).map PlayerProfile.machineId = Expiry.keys c.players := by
    rw [List.map_map]
    exact List.map_congr_left h
  rw [← hkeys]
  exact (List.perm_insertionSort _ _).map _

end ServerContext

/-! ## The profiles the backend sends (`network/backend.rs`) -/

def hostProfile (crypto : Crypto) (identity : List UInt8) : PlayerProfile :=
  ⟨"Host", machineIdFromIdentity crypto identity, "PCL N Terracotta", some .host⟩

/-- The profile of a join, by local discovery and by mesh. -/
def guestProfile (crypto : Crypto) (identity : List UInt8) : PlayerProfile :=
  ⟨"Player", machineIdFromIdentity crypto identity, "PCL N Terracotta", some .guest⟩

/-- The profile of a refresh, with the Unix time of the member. -/
def probeProfile (nowUnixSeconds : UInt64) : PlayerProfile :=
  ⟨"Probe", "probe-" ++ toString nowUnixSeconds.toNat, "PCL N Terracotta", some .guest⟩

/-! ### They are valid -/

/-- A character of ASCII that shows. -/
def Graphic (c : Char) : Prop := 0x21 ≤ c.toNat ∧ c.toNat ≤ 0x7e

theorem graphic_not_white {c : Char} (h : Graphic c) : Text.isWhitespace c = false := by
  obtain ⟨hlow, hhigh⟩ := h
  simp only [Text.isWhitespace, Bool.or_eq_false_iff, Bool.and_eq_false_iff, decide_eq_false_iff_not, beq_eq_false_iff_ne]
  omega

theorem graphic_not_control {c : Char} (h : Graphic c) : Text.isControl c = false := by
  obtain ⟨hlow, hhigh⟩ := h
  simp only [Text.isControl, Bool.or_eq_false_iff, Bool.and_eq_false_iff, decide_eq_false_iff_not]
  omega

theorem graphic_utf8Size {c : Char} (h : Graphic c) : c.utf8Size = 1 := by
  have hle : c.val.toNat ≤ 0x7f := Nat.le_trans h.2 (by decide)
  unfold Char.utf8Size
  rw [if_pos (UInt32.le_iff_toNat_le.2 hle)]

theorem utf8Len_of_graphic : ∀ {s : List Char}, (∀ c ∈ s, Graphic c) → Text.utf8Len s = s.length
  | [], _ => rfl
  | c :: s, h => by
    have ih := utf8Len_of_graphic (fun c hc => h c (List.mem_cons_of_mem _ hc))
    rw [Text.utf8Len_cons, graphic_utf8Size (h c List.mem_cons_self), ih, List.length_cons]
    omega

theorem trim_of_graphic {s : List Char} (h : ∀ c ∈ s, Graphic c) : Text.trim s = s := by
  have hwhite : ∀ c ∈ s, ¬ Text.isWhitespace c = true := by
    intro c hc
    rw [graphic_not_white (h c hc)]
    exact Bool.false_ne_true
  have hstart : s.dropWhile Text.isWhitespace = s := by
    cases s with
    | nil => rfl
    | cons c s => exact List.dropWhile_cons_of_neg (hwhite c List.mem_cons_self)
  unfold Text.trim
  rw [hstart]
  exact List.rdropWhile_eq_self_iff.2 (fun hne => hwhite _ (List.getLast_mem hne))

/-- **A short text of characters that show is valid.** -/
theorem validText_of_graphic {value : String} {n : Nat} (hne : value.toList ≠ []) (hlen : value.toList.length ≤ n)
    (h : ∀ c ∈ value.toList, Graphic c) : validText value n = true := by
  have hcontrol : value.toList.any Text.isControl = false := by
    rw [List.any_eq_false]
    intro c hc
    rw [graphic_not_control (h c hc)]
    exact Bool.false_ne_true
  have hempty : value.toList.isEmpty = false := by
    rw [List.isEmpty_eq_false_iff]
    exact hne
  unfold validText
  rw [trim_of_graphic h, utf8Len_of_graphic h, hcontrol, hempty, decide_eq_true hlen]
  rfl

theorem machineId_graphic {crypto : Crypto} {identity : List UInt8} {c : Char}
    (h : c ∈ (machineIdFromIdentity crypto identity).toList) : Graphic c := by
  rw [machineId_toList] at h
  have hdigits : ∀ c ∈ "0123456789abcdef".toList, Graphic c := by simp [Graphic]
  exact hdigits c (hexEncode_digits h)

theorem machineId_valid (crypto : Crypto) (identity : List UInt8) :
    validText (machineIdFromIdentity crypto identity) 128 = true := by
  have hlen := length_machineId crypto identity
  have hne : (machineIdFromIdentity crypto identity).toList ≠ [] := by
    intro hnil
    rw [hnil] at hlen
    cases hlen
  exact validText_of_graphic hne (by omega) (fun c hc => machineId_graphic hc)

theorem guestProfile_valid (crypto : Crypto) (identity : List UInt8) :
    (guestProfile crypto identity).validate = true := by
  have hname : validText "Player" 64 = true := by decide
  have hvendor : validText "PCL N Terracotta" 256 = true := by decide
  unfold PlayerProfile.validate guestProfile
  rw [hname, hvendor, machineId_valid]
  rfl

theorem hostProfile_valid (crypto : Crypto) (identity : List UInt8) : (hostProfile crypto identity).validate = true := by
  have hname : validText "Host" 64 = true := by decide
  have hvendor : validText "PCL N Terracotta" 256 = true := by decide
  unfold PlayerProfile.validate hostProfile
  rw [hname, hvendor, machineId_valid]
  rfl

theorem probeId_toList (unix : UInt64) :
    (probeProfile unix).machineId.toList = "probe-".toList ++ Nat.toDigits 10 unix.toNat := by
  show ("probe-" ++ toString unix.toNat).toList = _
  have hdigits : (toString unix.toNat).toList = Nat.toDigits 10 unix.toNat := by
    rw [Nat.toString_eq_ofList_toDigits, String.toList_ofList]
  rw [String.toList_append, hdigits]

theorem probeProfile_valid (unix : UInt64) : (probeProfile unix).validate = true := by
  have hname : validText "Probe" 64 = true := by decide
  have hvendor : validText "PCL N Terracotta" 256 = true := by decide
  have hdigits : (Nat.toDigits 10 unix.toNat).length ≤ 20 := by
    have hlt : unix.toNat < 18446744073709551616 := unix.toNat_lt
    exact (Nat.length_toDigits_le_iff (by decide) (by decide)).2 (Nat.lt_of_lt_of_le hlt (by norm_num))
  have hprefix : "probe-".toList.length = 6 := by decide
  have hprobe : ∀ c ∈ "probe-".toList, Graphic c := by simp [Graphic]
  have hid : validText (probeProfile unix).machineId 128 = true := by
    refine validText_of_graphic ?_ ?_ ?_
    · rw [probeId_toList]
      exact List.append_ne_nil_of_left_ne_nil (by decide) _
    · rw [probeId_toList, List.length_append, hprefix]
      omega
    · intro c hc
      rw [probeId_toList] at hc
      rcases List.mem_append.1 hc with hc | hc
      · exact hprobe c hc
      · have hdigit := Nat.isDigit_of_mem_toDigits (by decide) (by decide) hc
        simp only [Char.isDigit, Bool.and_eq_true, decide_eq_true_eq, ge_iff_le, UInt32.le_iff_toNat_le,
          Char.reduceVal, UInt32.reduceToNat] at hdigit
        exact ⟨Nat.le_trans (by decide) hdigit.1, Nat.le_trans hdigit.2 (by decide)⟩
  unfold PlayerProfile.validate
  rw [hid]
  show (validText "Probe" 64 && true && validText "PCL N Terracotta" 256) = true
  rw [hname, hvendor]
  rfl

/-- **A probe is nobody's machine id**: no hexadecimal digit is a `p`. -/
theorem probeId_ne (crypto : Crypto) (identity : List UInt8) (unix : UInt64) :
    (probeProfile unix).machineId ≠ machineIdFromIdentity crypto identity := by
  intro heq
  have hp : 'p' ∈ (probeProfile unix).machineId.toList := by
    rw [probeId_toList]
    exact List.mem_append_left _ (by decide)
  rw [heq, machineId_toList] at hp
  exact absurd (hexEncode_digits hp) (by decide)

end Terracotta
