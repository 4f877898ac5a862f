import Mathlib.Algebra.Order.BigOperators.Group.List
import Terracotta.Serving
/-!
# The size of the list of players (`scaffolding/server.rs`, `scaffolding/protocol.rs`)

A roster has no bound of its own: whoever reaches the server adds an entry with every machine id, and the list of all of
them has to fit the body of one response.  Here is how many bytes it has.
-/
namespace Terracotta

open Json (Value)

/-- The bytes of a text in JSON, in which a quote and a backslash take two. -/
def jsonLen (value : String) : Nat := Text.utf8Len value.toList + value.toList.countP (fun c => c = '"' ∨ c = '\\')

/-- The bytes of a profile's texts. -/
def PlayerProfile.textLen (p : PlayerProfile) : Nat := jsonLen p.name + jsonLen p.machineId + jsonLen p.vendor

/-- The bytes an entry adds to the list: its texts, and what is around them. -/
def entryLen (hostMachineId : String) (e : String × TrackedPlayer) : Nat :=
  e.2.profile.textLen + if e.1 = hostMachineId then 54 else 55

/-! ## One profile -/

theorem utf8Len_writeStr_valid {value : String} {n : Nat} (h : validText value n = true) :
    Text.utf8Len (Json.writeStr value) = jsonLen value + 2 := by
  have hcontrol : ∀ c ∈ value.toList, Text.isControl c = false := by
    unfold validText at h
    simp only [Bool.and_eq_true, Bool.not_eq_true', List.any_eq_false, Bool.not_eq_true] at h
    exact h.2
  rw [Json.utf8Len_writeStr, Json.escapedLen_plain hcontrol]
  rfl

theorem utf8Len_toValue {p : PlayerProfile} (hvalid : p.validate = true) {kind : PlayerKind} (hkind : p.kind = some kind) :
    Text.utf8Len (Json.write (fun _ => []) p.toValue) = p.textLen + 47 + Text.utf8Len (Json.writeStr kind.name) := by
  unfold PlayerProfile.validate at hvalid
  simp only [Bool.and_eq_true] at hvalid
  obtain ⟨⟨hname, hid⟩, hvendor⟩ := hvalid
  have hkeys : Text.utf8Len (Json.writeStr "name") = 6 ∧ Text.utf8Len (Json.writeStr "machine_id") = 12 ∧
      Text.utf8Len (Json.writeStr "vendor") = 8 ∧ Text.utf8Len (Json.writeStr "kind") = 6 := by decide
  have hstr : ∀ value : String, Json.write (fun _ => []) (.str value) = Json.writeStr value := fun _ => rfl
  unfold PlayerProfile.toValue PlayerProfile.textLen
  rw [hkind, Json.utf8Len_writeObj]
  simp only [List.cons_append, List.nil_append]
  rw [Json.utf8Len_writeMembers, Json.utf8Len_writeMembers, Json.utf8Len_writeMembers, Json.utf8Len_writeMembers]
  simp only [hstr, reduceCtorEq, if_false, if_true, hkeys, utf8Len_writeStr_valid hname, utf8Len_writeStr_valid hid,
    utf8Len_writeStr_valid hvendor]
  omega

/-! ## The entries of a roster -/

namespace ServerContext

/-- Every entry is valid, and the host's is the only one of a host. -/
def Typed (hostMachineId : String) (c : ServerContext) : Prop :=
  c.hostMachineId = hostMachineId ∧ hostMachineId ∈ Expiry.keys c.players ∧
    ∀ e ∈ c.players, e.2.profile.validate = true ∧
      e.2.profile.kind = some (if e.1 = hostMachineId then .host else .guest)

variable {hostMachineId : String} {c : ServerContext}

theorem typed_new {host : PlayerProfile} {minecraftPort started : Nat} (hnew : new host minecraftPort started = .ok c) :
    Typed host.machineId c := by
  obtain ⟨-, hvalid, rfl⟩ := new_ok.1 hnew
  refine ⟨rfl, List.mem_singleton.2 rfl, fun e he => ?_⟩
  rw [List.mem_singleton.1 he]
  exact ⟨hvalid, (congrArg some (if_pos rfl)).symm⟩

theorem Typed.apply (h : Typed hostMachineId c) (call : GuestCall) : Typed hostMachineId (c.apply call) := by
  obtain ⟨hhost, hmem, hall⟩ := h
  refine ⟨(apply_hostMachineId c call).trans hhost, ?_, ?_⟩
  · obtain ⟨e, he, hid⟩ := Expiry.mem_keys.1 hmem
    cases call with
    | recordGuest profile now =>
      rw [apply_recordGuest, hhost]
      split
      · rename_i tracked haccepted
        obtain ⟨-, hne, -, -⟩ := accepted_eq_some haccepted
        have hother : e.1 ≠ tracked.profile.machineId := fun heq => hne (heq.symm.trans hid)
        exact Expiry.mem_keys.2 ⟨e, List.mem_cons_of_mem _ (List.mem_filter.2 ⟨he, decide_eq_true hother⟩), hid⟩
      · exact hmem
    | removeStaleGuests now =>
      exact Expiry.mem_keys.2 ⟨e, Expiry.mem_sweep.2 ⟨he, Or.inl (hid.trans hhost.symm)⟩, hid⟩
  · cases call with
    | recordGuest profile now =>
      rw [apply_recordGuest, hhost]
      split
      · rename_i tracked haccepted
        obtain ⟨hvalid, hne, hkind, -⟩ := accepted_eq_some haccepted
        intro e he
        rcases List.mem_cons.1 he with rfl | he
        · exact ⟨hvalid, hkind.trans (congrArg some (if_neg hne)).symm⟩
        · exact hall e (List.mem_filter.1 he).1
      · exact hall
    | removeStaleGuests now => exact fun e he => hall e (List.mem_filter.1 he).1

theorem Typed.run : ∀ {calls : List GuestCall} {c : ServerContext}, Typed hostMachineId c →
    Typed hostMachineId (c.runGuests calls)
  | [], _, h => h
  | call :: _, _, h => (h.apply call).run

/-- **The size of the list**: two brackets, the entries, and a comma between two of them. -/
theorem Typed.length_writeProfiles (h : Typed hostMachineId c) :
    (writeProfiles c.playerProfiles).length = 1 + (c.players.map (entryLen hostMachineId)).sum := by
  obtain ⟨-, hmem, hall⟩ := h
  have hentries : (c.playerProfiles.map (fun p => Text.utf8Len (Json.write (fun _ => []) p.toValue) + 1)).sum =
      (c.players.map (entryLen hostMachineId)).sum := by
    rw [((playerProfiles_perm c).map _).sum_eq, List.map_map]
    refine congrArg List.sum (List.map_congr_left fun e he => ?_)
    obtain ⟨hvalid, hkind⟩ := hall e he
    show Text.utf8Len (Json.write (fun _ => []) e.2.profile.toValue) + 1 = _
    rw [utf8Len_toValue hvalid hkind]
    unfold entryLen
    by_cases hid : e.1 = hostMachineId
    · have hname : Text.utf8Len (Json.writeStr PlayerKind.host.name) = 6 := by decide
      rw [if_pos hid, if_pos hid, hname]
    · have hname : Text.utf8Len (Json.writeStr PlayerKind.guest.name) = 7 := by decide
      rw [if_neg hid, if_neg hid, hname]
  unfold writeProfiles
  rw [Text.length_utf8, Json.utf8Len_writeArr]
  cases hlist : c.playerProfiles with
  | nil =>
    obtain ⟨e, he, -⟩ := Expiry.mem_keys.1 hmem
    have hp := (playerProfiles_perm c).mem_iff.2 (List.mem_map_of_mem he)
    rw [hlist] at hp
    cases hp
  | cons p profiles =>
    have hitems := Json.utf8Len_writeItems (fun _ => []) p.toValue (profiles.map PlayerProfile.toValue)
    rw [← List.map_cons, List.map_map] at hitems
    rw [hlist] at hentries
    rw [← hentries]
    show 2 + _ = 1 + (List.map ((fun w => Text.utf8Len (Json.write (fun _ => []) w) + 1) ∘ PlayerProfile.toValue)
      (p :: profiles)).sum
    rw [← hitems]
    omega

/-- **The list is answered**: its text fits the body of a response, and a request for it gets that body. -/
def ListAnswered (parse : List UInt8 → Option Value) (c : ServerContext) (now : Nat) : Prop :=
  (writeProfiles c.playerProfiles).length ≤ maxBodyLength ∧
  ∃ bytes, (c.serveClient parse ⟨"c:player_profiles_list", []⟩ now).2 = .ok bytes ∧
    readResponse bytes = .ok (⟨0, writeProfiles c.playerProfiles⟩, [])

theorem answer_listRequest (parse : List UInt8 → Option Value) (c : ServerContext) (now : Nat) :
    (c.answer parse ⟨"c:player_profiles_list", []⟩ now).2 = ⟨0, writeProfiles c.playerProfiles⟩ := by
  rw [answer_list rfl]
  rfl

/-- A list is answered exactly if it fits. -/
theorem listAnswered_iff {parse : List UInt8 → Option Value} {now : Nat} :
    ListAnswered parse c now ↔ (writeProfiles c.playerProfiles).length ≤ maxBodyLength := by
  unfold ListAnswered
  refine and_iff_left_of_imp fun hfits => serveClient_ok.2 ⟨?_, hfits⟩
  rw [answer_listRequest]

end ServerContext

/-! ## A crowd -/

/-- A guest with quotes for a name and a vendor. -/
def crowdGuest (i : Nat) : PlayerProfile :=
  ⟨String.ofList (List.replicate 64 '"'), String.ofList (List.replicate (i + 1) 'a'),
    String.ofList (List.replicate 256 '"'), none⟩

def crowd (n : Nat) : List GuestCall := (List.range n).map (fun i => .recordGuest (crowdGuest i) 0)

theorem validText_replicate {c : Char} (hc : Graphic c) {n limit : Nat} (hpos : 0 < n) (hle : n ≤ limit) :
    validText (String.ofList (List.replicate n c)) limit = true := by
  refine validText_of_graphic ?_ ?_ ?_
  · rw [String.toList_ofList]
    simp
    omega
  · rw [String.toList_ofList, List.length_replicate]
    exact hle
  · intro x hx
    rw [String.toList_ofList] at hx
    rw [List.eq_of_mem_replicate hx]
    exact hc

theorem crowdGuest_valid {i : Nat} (h : i < 128) : (crowdGuest i).validate = true := by
  have hquote : Graphic '"' := by simp [Graphic]
  have ha : Graphic 'a' := by simp [Graphic]
  unfold PlayerProfile.validate crowdGuest
  simp only
  rw [validText_replicate hquote (by omega) (by omega), validText_replicate ha (by omega) h,
    validText_replicate hquote (by omega) (by omega)]
  rfl

theorem crowdId_toList (i : Nat) : (crowdGuest i).machineId.toList = List.replicate (i + 1) 'a' := String.toList_ofList

theorem crowdGuest_ne_host (i : Nat) : (crowdGuest i).machineId ≠ "host-machine" := by
  intro heq
  have hh : 'h' ∈ (crowdGuest i).machineId.toList := by
    rw [heq]
    decide
  rw [crowdId_toList] at hh
  exact absurd (List.eq_of_mem_replicate hh) (by decide)

theorem crowdGuest_ne {i j : Nat} (h : i < j) : (crowdGuest i).machineId ≠ (crowdGuest j).machineId := by
  intro heq
  have hlen := congrArg (fun s : String => s.toList.length) heq
  simp only [crowdId_toList, List.length_replicate] at hlen
  omega

def crowdEntry (i : Nat) : TrackedPlayer := ⟨{ crowdGuest i with kind := some .guest }, 0⟩

theorem crowdGuest_accepted {i : Nat} (h : i < 128) :
    GuestCall.accepted "host-machine" (.recordGuest (crowdGuest i) 0) = some (crowdEntry i) := by
  simp only [GuestCall.accepted]
  rw [if_pos ⟨crowdGuest_valid h, crowdGuest_ne_host i⟩]
  rfl

/-- Every quote takes two bytes. -/
theorem jsonLen_quotes (n : Nat) : jsonLen (String.ofList (List.replicate n '"')) = 2 * n := by
  have hquote : Char.utf8Size '"' = 1 := by decide
  unfold jsonLen Text.utf8Len
  rw [String.toList_ofList, List.map_replicate, List.sum_replicate, List.countP_replicate, hquote]
  simp
  omega

theorem entryLen_crowd (i : Nat) : 695 ≤ entryLen "host-machine" ((crowdGuest i).machineId, crowdEntry i) := by
  have hname : jsonLen (crowdEntry i).profile.name = 2 * 64 := jsonLen_quotes 64
  have hvendor : jsonLen (crowdEntry i).profile.vendor = 2 * 256 := jsonLen_quotes 256
  unfold entryLen PlayerProfile.textLen
  rw [if_neg (crowdGuest_ne_host i), hname, hvendor]
  omega

/-- The first `n` guests of the crowd are in the roster, at about seven hundred bytes each. -/
def Crowded (n : Nat) (c : ServerContext) : Prop :=
  c.hostMachineId = "host-machine" ∧ (∀ e ∈ c.players, ∀ i, n ≤ i → e.1 ≠ (crowdGuest i).machineId) ∧
    695 * n ≤ (c.players.map (entryLen "host-machine")).sum

theorem Crowded.apply {n : Nat} {c : ServerContext} (h : Crowded n c) (hn : n < 128) :
    Crowded (n + 1) (c.apply (.recordGuest (crowdGuest n) 0)) := by
  obtain ⟨hhost, hfresh, hsum⟩ := h
  have hfilter : c.players.filter (fun e => e.1 ≠ (crowdGuest n).machineId) = c.players :=
    List.filter_eq_self.2 fun e he => decide_eq_true (hfresh e he n (Nat.le_refl n))
  have hid : (crowdEntry n).profile.machineId = (crowdGuest n).machineId := rfl
  rw [ServerContext.apply_recordGuest, hhost, crowdGuest_accepted hn]
  simp only [Expiry.insert, hid]
  rw [hfilter]
  refine ⟨rfl, fun e he i hi => ?_, ?_⟩
  · rcases List.mem_cons.1 he with rfl | he
    · exact crowdGuest_ne hi
    · exact hfresh e he i (Nat.le_of_succ_le hi)
  · have hentry := entryLen_crowd n
    simp only [List.map_cons, List.sum_cons]
    omega

theorem crowded : ∀ {n : Nat}, n ≤ 128 → Crowded n (hostAlone.runGuests (crowd n))
  | 0, _ => by
    refine ⟨rfl, fun e he i _ => ?_, Nat.zero_le _⟩
    rw [List.mem_singleton.1 he]
    exact (crowdGuest_ne_host i).symm
  | n + 1, hn => by
    have hstep : hostAlone.runGuests (crowd (n + 1)) =
        (hostAlone.runGuests (crowd n)).apply (.recordGuest (crowdGuest n) 0) := by
      unfold crowd ServerContext.runGuests
      rw [List.range_succ, List.map_append, List.foldl_append]
      rfl
    rw [hstep]
    exact (crowded (Nat.le_of_succ_le hn)).apply hn

/-- **A crowd of ninety-five guests**, each of them accepted: the list has more bytes than a body may, and a request for it
ends the connection. -/
theorem crowd_ends_the_connection :
    ServerContext.new ⟨"Host", "host-machine", "PCL N Terracotta", some .host⟩ 25565 0 = .ok hostAlone ∧
    (∀ call ∈ crowd 95, (call.accepted "host-machine").isSome) ∧
    maxBodyLength < (writeProfiles (hostAlone.runGuests (crowd 95)).playerProfiles).length ∧
    ∃ e, ((hostAlone.runGuests (crowd 95)).serveClient (fun _ => none) ⟨"c:player_profiles_list", []⟩ 0).2 = .error e := by
  have hnew : ServerContext.new ⟨"Host", "host-machine", "PCL N Terracotta", some .host⟩ 25565 0 = .ok hostAlone := by
    decide
  have hlong : maxBodyLength < (writeProfiles (hostAlone.runGuests (crowd 95)).playerProfiles).length := by
    have hsum := (crowded (show 95 ≤ 128 by omega)).2.2
    rw [(ServerContext.typed_new hnew).run.length_writeProfiles]
    have hid : PlayerProfile.machineId ⟨"Host", "host-machine", "PCL N Terracotta", some .host⟩ = "host-machine" := rfl
    rw [hid]
    unfold maxBodyLength
    omega
  refine ⟨hnew, ?_, hlong, ?_⟩
  · intro call hcall
    obtain ⟨i, hi, rfl⟩ := List.mem_map.1 hcall
    rw [crowdGuest_accepted (Nat.lt_of_lt_of_le (List.mem_range.1 hi) (by omega))]
    rfl
  · rw [ServerContext.serveClient_eq]
    simp only [ServerContext.answer_listRequest, ResponseFrame.write, writeResponse, validateBodyLength, if_pos hlong]
    exact ⟨_, rfl⟩

/-- **When the list of players is answered**: in every roster behind any pings and cleanups, exactly if the texts of all
players, quotes and backslashes twice, and fifty-five bytes for each of them fit. -/
theorem player_list_answered_iff (parse : List UInt8 → Option Value) {host : PlayerProfile} {minecraftPort started : Nat}
    {context : ServerContext} (hnew : ServerContext.new host minecraftPort started = .ok context) (calls : List GuestCall)
    (now : Nat) :
    (context.runGuests calls).ListAnswered parse now ↔
      1 + ((context.runGuests calls).players.map (entryLen host.machineId)).sum ≤ maxBodyLength := by
  rw [ServerContext.listAnswered_iff, (ServerContext.typed_new hnew).run.length_writeProfiles]

def twoGuests : List GuestCall :=
  [.recordGuest ⟨"Ada", "machine-a", "PCL N Terracotta", none⟩ 0, .recordGuest ⟨"Bob \"B\"", "machine-b", "", none⟩ 3]

theorem two_guests_are_listed :
    (hostAlone.runGuests twoGuests).players.length = 2 ∧
      (hostAlone.runGuests twoGuests).ListAnswered (fun _ => none) 5 :=
  ⟨by decide +kernel, (player_list_answered_iff (fun _ => none)
    (show ServerContext.new ⟨"Host", "host-machine", "PCL N Terracotta", some .host⟩ 25565 0 = .ok hostAlone by decide)
    twoGuests 5).2 (by decide +kernel)⟩

end Terracotta
