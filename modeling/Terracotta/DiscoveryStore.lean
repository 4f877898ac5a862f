import Terracotta.JoinPaths
import Terracotta.JsonText
/-!
# The discovery directory as a store of rooms (`network/discovery.rs`)

A room is published in a file that its code names, a look at it checks the file again, and one that finds it too old
removes it.  Here the directory is a map from names to contents, beside the store it stands for: the advertisement of each
room that was published last and not cleared since.
-/
namespace Terracotta

/-- `serde_json`, for an advertisement. -/
structure AdvertisementCodec where
  encode : RoomEndpointAdvertisement → List UInt8
  decode : List UInt8 → Option RoomEndpointAdvertisement

/-- The contents of the files, by their names without the extension. -/
abbrev Directory := List Char → Option (List UInt8)

/-! ## The calls -/

namespace Directory

variable (codec : AdvertisementCodec)

def empty : Directory := fun _ => none

def look (dir : Directory) (path : List Char) (nowUnixSeconds : Nat) : DiscoveryFile :=
  match dir path with
  | none => .absent
  | some body => match codec.decode body with
    | none => .malformed
    | some advertisement => .advertisement advertisement nowUnixSeconds

/-- `publish_local_endpoint`, where the file is written. -/
def publish (dir : Directory) (advertisement : RoomEndpointAdvertisement) : Directory × Except RoomError Unit :=
  match advertisementPath advertisement.roomCode with
  | .error error => (dir, .error error)
  | .ok path => (Function.update dir path (some (codec.encode advertisement)), publishLocalEndpoint advertisement (.ok ()))

/-- `load_local_endpoint`; an advertisement it reads and does not return is too old, and goes. -/
def load (dir : Directory) (roomCode : String) (nowUnixSeconds : Nat) :
    Directory × Except RoomError (Option RoomEndpointAdvertisement) :=
  match advertisementPath roomCode with
  | .error error => (dir, .error error)
  | .ok path =>
    let file := dir.look codec path nowUnixSeconds
    let result := loadLocalEndpoint roomCode file
    match file, result with
    | .advertisement _ _, .ok none => (Function.update dir path none, result)
    | _, _ => (dir, result)

/-- `clear_local_endpoint`, where a file that is there is removed. -/
def clear (dir : Directory) (roomCode : String) : Directory × Except RoomError Unit :=
  match advertisementPath roomCode with
  | .error error => (dir, .error error)
  | .ok path => (Function.update dir path none, .ok ())

end Directory

inductive DiscoveryCall where
  | publish (advertisement : RoomEndpointAdvertisement)
  | load (roomCode : String)
  | clear (roomCode : String)

/-- A call, and the Unix time of it. -/
structure DiscoveryEvent where
  call : DiscoveryCall
  nowUnixSeconds : Nat

def DiscoveryCall.roomCode : DiscoveryCall → String
  | .publish advertisement => advertisement.roomCode
  | .load roomCode | .clear roomCode => roomCode

def DiscoveryEvent.key (e : DiscoveryEvent) : List Char := compactRoomCode e.call.roomCode.toList

namespace Directory

def apply (codec : AdvertisementCodec) (dir : Directory) (e : DiscoveryEvent) : Directory :=
  match e.call with
  | .publish advertisement => (dir.publish codec advertisement).1
  | .load roomCode => (dir.load codec roomCode e.nowUnixSeconds).1
  | .clear roomCode => (dir.clear roomCode).1

def after (codec : AdvertisementCodec) (events : List DiscoveryEvent) : Directory := events.foldl (apply codec) empty

end Directory

/-! ## The store -/

/-- The advertisement of every room that has one. -/
abbrev RoomStore := List Char → Option RoomEndpointAdvertisement

def RoomStore.apply (store : RoomStore) (e : DiscoveryEvent) : RoomStore :=
  match e.call with
  | .publish advertisement => Function.update store e.key (some advertisement)
  | .load _ => store
  | .clear _ => Function.update store e.key none

def RoomStore.after (events : List DiscoveryEvent) : RoomStore := events.foldl RoomStore.apply (fun _ => none)

/-- A publication or a clearing of a room. -/
def DiscoveryEvent.Writes (e : DiscoveryEvent) (key : List Char) : Prop :=
  e.key = key ∧ ∀ roomCode, e.call ≠ .load roomCode

/-- The advertisement was published, and behind that nothing was published or cleared under its code. -/
def LastPublished (events : List DiscoveryEvent) (key : List Char) (advertisement : RoomEndpointAdvertisement) : Prop :=
  ∃ before e after, events = before ++ e :: after ∧ e.call = .publish advertisement ∧ e.key = key ∧
    ∀ e' ∈ after, ¬ e'.Writes key

theorem RoomStore.after_snoc (events : List DiscoveryEvent) (e : DiscoveryEvent) :
    RoomStore.after (events ++ [e]) = (RoomStore.after events).apply e := by
  rw [RoomStore.after, List.foldl_append]
  rfl

theorem Directory.after_snoc (codec : AdvertisementCodec) (events : List DiscoveryEvent) (e : DiscoveryEvent) :
    Directory.after codec (events ++ [e]) = (Directory.after codec events).apply codec e := by
  rw [Directory.after, List.foldl_append]
  rfl

theorem RoomStore.apply_of_not_writes {store : RoomStore} {e : DiscoveryEvent} {key : List Char} (h : ¬ e.Writes key) :
    store.apply e key = store key := by
  unfold RoomStore.apply
  by_cases hkey : e.key = key
  · cases hcall : e.call with
    | load roomCode => rfl
    | publish advertisement => exact absurd ⟨hkey, fun roomCode hload => by rw [hcall] at hload; cases hload⟩ h
    | clear roomCode => exact absurd ⟨hkey, fun roomCode hload => by rw [hcall] at hload; cases hload⟩ h
  · cases e.call with
    | load roomCode => rfl
    | publish advertisement | clear roomCode => exact Function.update_of_ne (Ne.symm hkey) _ _

/-- **What the store holds is what was published last.** -/
theorem RoomStore.after_eq_some {key : List Char} {advertisement : RoomEndpointAdvertisement} :
    ∀ {events : List DiscoveryEvent}, RoomStore.after events key = some advertisement ↔
      LastPublished events key advertisement := by
  intro events
  induction events using List.reverseRecOn with
  | nil =>
    constructor
    · intro h
      cases h
    · rintro ⟨before, e, after, h, -⟩
      cases before <;> cases h
  | append_singleton events e ih =>
    rw [RoomStore.after_snoc]
    -- the last event is either the one in question, or not about the room, or there is none
    have hsplit : LastPublished (events ++ [e]) key advertisement ↔
        (e.call = .publish advertisement ∧ e.key = key) ∨ (¬ e.Writes key ∧ LastPublished events key advertisement) := by
      constructor
      · rintro ⟨before, e', after, h, hcall, hkey, hafter⟩
        rcases List.eq_nil_or_concat after with rfl | ⟨after, last, rfl⟩
        · obtain ⟨rfl, hlast⟩ := List.append_inj' h rfl
          cases hlast
          exact .inl ⟨hcall, hkey⟩
        · rw [List.concat_eq_append, ← List.cons_append, ← List.append_assoc] at h
          obtain ⟨rfl, hlast⟩ := List.append_inj' h rfl
          cases hlast
          rw [List.concat_eq_append] at hafter
          refine .inr ⟨hafter e (List.mem_append_right _ (List.mem_singleton_self e)), before, e', after, rfl, hcall, hkey, ?_⟩
          exact fun x hx => hafter x (List.mem_append_left _ hx)
      · rintro (⟨hcall, hkey⟩ | ⟨hnot, before, e', after, rfl, hcall, hkey, hafter⟩)
        · exact ⟨events, e, [], rfl, hcall, hkey, fun x hx => absurd hx List.not_mem_nil⟩
        · refine ⟨before, e', after ++ [e], by simp, hcall, hkey, fun x hx => ?_⟩
          rcases List.mem_append.1 hx with hx | hx
          · exact hafter x hx
          · rw [List.mem_singleton.1 hx]
            exact hnot
    rw [hsplit]
    by_cases hwrites : e.Writes key
    · have hkey := hwrites.1
      unfold RoomStore.apply
      cases hcall : e.call with
      | load roomCode => exact absurd hcall (hwrites.2 roomCode)
      | publish published => simp [hkey, hwrites]
      | clear roomCode => simp [hkey, hwrites]
    · rw [RoomStore.apply_of_not_writes hwrites, ih]
      have hother : ¬ (e.call = .publish advertisement ∧ e.key = key) := fun h =>
        hwrites ⟨h.2, fun roomCode hload => by rw [h.1] at hload; cases hload⟩
      simp [hwrites, hother]

/-! ## The directory stands for the store -/

/-- A valid advertisement that survives its text. -/
structure Publishable (codec : AdvertisementCodec) (advertisement : RoomEndpointAdvertisement) : Prop where
  roomCode : Twelve (codeChars advertisement.roomCode)
  scaffolding : ∃ address, parseLoopback advertisement.scaffolding = .ok address
  minecraft : ∃ address, parseLoopback advertisement.minecraft = .ok address
  decodes : codec.decode (codec.encode advertisement) = some advertisement

def DiscoveryCall.Valid (codec : AdvertisementCodec) : DiscoveryCall → Prop
  | .publish advertisement => Publishable codec advertisement
  | .load roomCode | .clear roomCode => Twelve (codeChars roomCode)

def Stale (nowUnixSeconds : Nat) (advertisement : RoomEndpointAdvertisement) : Prop :=
  maxAdvertisementAge < nowUnixSeconds - advertisement.publishedUnixSeconds

/-- A room's file is its advertisement, or none where that is too old. -/
structure StandsFor (codec : AdvertisementCodec) (dir : Directory) (store : RoomStore) (nowUnixSeconds : Nat) : Prop where
  missing : ∀ key, store key = none → dir key = none
  file : ∀ key advertisement, store key = some advertisement →
    dir key = some (codec.encode advertisement) ∨ dir key = none ∧ Stale nowUnixSeconds advertisement
  keyed : ∀ key advertisement, store key = some advertisement →
    Publishable codec advertisement ∧ compactRoomCode advertisement.roomCode.toList = key

section calls

variable {codec : AdvertisementCodec} {dir : Directory} {store : RoomStore} {t nowUnixSeconds : Nat} {roomCode : String}

theorem standsFor_empty (codec : AdvertisementCodec) (t : Nat) : StandsFor codec .empty (fun _ => none) t :=
  ⟨fun _ _ => rfl, fun _ _ h => (by cases h), fun _ _ h => (by cases h)⟩

theorem StandsFor.later (h : StandsFor codec dir store t) (hle : t ≤ nowUnixSeconds) :
    StandsFor codec dir store nowUnixSeconds := by
  refine ⟨h.missing, fun key advertisement hstore => ?_, h.keyed⟩
  rcases h.file key advertisement hstore with hdir | ⟨hdir, hstale⟩
  · exact .inl hdir
  · exact .inr ⟨hdir, Nat.lt_of_lt_of_le hstale (Nat.sub_le_sub_right hle _)⟩

/-- A file that is written with an entry of the store. -/
theorem StandsFor.update {key : List Char} {file : Option (List UInt8)} {entry : Option RoomEndpointAdvertisement}
    (h : StandsFor codec dir store nowUnixSeconds) (hnone : entry = none → file = none)
    (hsome : ∀ a, entry = some a → (file = some (codec.encode a) ∨ file = none ∧ Stale nowUnixSeconds a) ∧
      Publishable codec a ∧ compactRoomCode a.roomCode.toList = key) :
    StandsFor codec (Function.update dir key file) (Function.update store key entry) nowUnixSeconds := by
  have hself : Function.update dir key file key = file := Function.update_self _ _ _
  refine ⟨fun k hk => ?_, fun k a ha => ?_, fun k a ha => ?_⟩
  · by_cases hkk : k = key
    · rw [hkk, Function.update_self] at hk
      rw [hkk, hself, hnone hk]
    · rw [Function.update_of_ne hkk] at hk
      rw [Function.update_of_ne hkk]
      exact h.missing k hk
  · by_cases hkk : k = key
    · rw [hkk, Function.update_self] at ha
      rw [hkk, hself]
      exact (hsome a ha).1
    · rw [Function.update_of_ne hkk] at ha
      rw [Function.update_of_ne hkk]
      exact h.file k a ha
  · by_cases hkk : k = key
    · rw [hkk, Function.update_self] at ha
      rw [hkk]
      exact (hsome a ha).2
    · rw [Function.update_of_ne hkk] at ha
      exact h.keyed k a ha

theorem path_of_twelve (h : Twelve (codeChars roomCode)) :
    advertisementPath roomCode = .ok (compactRoomCode roomCode.toList) :=
  advertisementPath_eq_ok.2 ⟨h, rfl⟩

instance (nowUnixSeconds : Nat) (advertisement : RoomEndpointAdvertisement) : Decidable (Stale nowUnixSeconds advertisement) :=
  inferInstanceAs (Decidable (_ < _))

/-- A look at what was published under the code. -/
theorem loadLocalEndpoint_published {advertisement : RoomEndpointAdvertisement} (nowUnixSeconds : Nat)
    (hcode : Twelve (codeChars roomCode)) (hpublishable : Publishable codec advertisement)
    (hkey : compactRoomCode advertisement.roomCode.toList = compactRoomCode roomCode.toList) :
    loadLocalEndpoint roomCode (.advertisement advertisement nowUnixSeconds) =
      .ok (if Stale nowUnixSeconds advertisement then none else some advertisement) := by
  obtain ⟨scaffolding, hscaffolding⟩ := hpublishable.scaffolding
  obtain ⟨minecraft, hminecraft⟩ := hpublishable.minecraft
  unfold loadLocalEndpoint
  rw [path_of_twelve hcode]
  have hsame : ¬ compactRoomCode roomCode.toList ≠ compactRoomCode advertisement.roomCode.toList := not_not_intro hkey.symm
  simp only [bind, Except.bind, if_neg hsame, hscaffolding, hminecraft]
  by_cases hstale : Stale nowUnixSeconds advertisement
  · have hage : maxAdvertisementAge < nowUnixSeconds - advertisement.publishedUnixSeconds := hstale
    rw [if_pos hage, if_pos hstale]
    rfl
  · have hage : ¬ maxAdvertisementAge < nowUnixSeconds - advertisement.publishedUnixSeconds := hstale
    rw [if_neg hage, if_neg hstale]
    rfl

/-- **A load returns what the store holds, unless it is too old, and then there is no file behind it.** -/
theorem StandsFor.load (h : StandsFor codec dir store nowUnixSeconds) (hcode : Twelve (codeChars roomCode)) :
    (dir.load codec roomCode nowUnixSeconds).2 =
        .ok ((store (compactRoomCode roomCode.toList)).filter (fun a => ¬ Stale nowUnixSeconds a)) ∧
      StandsFor codec (dir.load codec roomCode nowUnixSeconds).1 store nowUnixSeconds ∧
      ∀ advertisement, store (compactRoomCode roomCode.toList) = some advertisement → Stale nowUnixSeconds advertisement →
        (dir.load codec roomCode nowUnixSeconds).1 (compactRoomCode roomCode.toList) = none := by
  have hpath := path_of_twelve hcode
  generalize hkey : compactRoomCode roomCode.toList = key at hpath
  cases hdir : dir key with
  | none =>
    -- nothing is read, and the store has nothing that is fresh
    have hload : dir.load codec roomCode nowUnixSeconds = (dir, .ok none) := by
      simp only [Directory.load, hpath, Directory.look, hdir, loadLocalEndpoint]
      rfl
    rw [hload]
    refine ⟨?_, h, fun _ _ _ => hdir⟩
    cases hstore : store key with
    | none => rfl
    | some advertisement =>
      rcases h.file key advertisement hstore with hfile | ⟨-, hstale⟩
      · rw [hdir] at hfile
        cases hfile
      · simp [Option.filter, hstale]
  | some body =>
    cases hstore : store key with
    | none =>
      have hmissing := h.missing key hstore
      rw [hdir] at hmissing
      cases hmissing
    | some advertisement =>
    obtain ⟨hpublishable, hcompact⟩ := h.keyed key advertisement hstore
    obtain rfl : body = codec.encode advertisement := by
      rcases h.file key advertisement hstore with hfile | ⟨hnone, -⟩
      · exact Option.some.inj (hdir.symm.trans hfile)
      · rw [hdir] at hnone
        cases hnone
    have hresult := loadLocalEndpoint_published nowUnixSeconds hcode hpublishable
      (hcompact.trans hkey.symm)
    by_cases hstale : Stale nowUnixSeconds advertisement
    · rw [if_pos hstale] at hresult
      have hload : dir.load codec roomCode nowUnixSeconds = (Function.update dir key none, .ok none) := by
        simp only [Directory.load, hpath, Directory.look, hdir, hpublishable.decodes, hresult]
      rw [hload]
      have hkept : StandsFor codec (Function.update dir key none) (Function.update store key (some advertisement))
          nowUnixSeconds :=
        h.update (fun hno => (by cases hno)) (fun a ha => by cases ha; exact ⟨.inr ⟨rfl, hstale⟩, hpublishable, hcompact⟩)
      rw [← hstore, Function.update_eq_self] at hkept
      exact ⟨by simp [Option.filter, hstale], hkept, fun _ _ _ => Function.update_self _ _ _⟩
    · rw [if_neg hstale] at hresult
      have hload : dir.load codec roomCode nowUnixSeconds = (dir, .ok (some advertisement)) := by
        simp only [Directory.load, hpath, Directory.look, hdir, hpublishable.decodes, hresult]
      rw [hload]
      refine ⟨by simp [Option.filter, hstale], h, fun a ha hstale' => ?_⟩
      cases ha
      exact absurd hstale' hstale

theorem StandsFor.publish {advertisement : RoomEndpointAdvertisement} (h : StandsFor codec dir store nowUnixSeconds)
    (hpublishable : Publishable codec advertisement) :
    (dir.publish codec advertisement).2 = .ok () ∧ StandsFor codec (dir.publish codec advertisement).1
      (Function.update store (compactRoomCode advertisement.roomCode.toList) (some advertisement)) nowUnixSeconds := by
  have hpath := path_of_twelve hpublishable.roomCode
  generalize hkey : compactRoomCode advertisement.roomCode.toList = key at hpath
  have hpublish : dir.publish codec advertisement =
      (Function.update dir key (some (codec.encode advertisement)), .ok ()) := by
    simp only [Directory.publish, publishLocalEndpoint, hpath]
    rfl
  rw [hpublish]
  exact ⟨rfl, h.update (fun hno => (by cases hno)) (fun a ha => by cases ha; exact ⟨.inl rfl, hpublishable, hkey⟩)⟩

theorem StandsFor.clear (h : StandsFor codec dir store nowUnixSeconds) (hcode : Twelve (codeChars roomCode)) :
    (dir.clear roomCode).2 = .ok () ∧
      StandsFor codec (dir.clear roomCode).1 (Function.update store (compactRoomCode roomCode.toList) none)
        nowUnixSeconds := by
  have hpath := path_of_twelve hcode
  generalize compactRoomCode roomCode.toList = key at hpath
  have hclear : dir.clear roomCode = (Function.update dir key none, .ok ()) := by simp only [Directory.clear, hpath]
  rw [hclear]
  exact ⟨rfl, h.update (fun _ => rfl) (fun a ha => by cases ha)⟩

/-- **One call.** -/
theorem StandsFor.apply (h : StandsFor codec dir store t) {e : DiscoveryEvent} (hvalid : e.call.Valid codec)
    (hle : t ≤ e.nowUnixSeconds) : StandsFor codec (dir.apply codec e) (store.apply e) e.nowUnixSeconds := by
  have hnow := h.later hle
  obtain ⟨call, now⟩ := e
  cases call with
  | publish advertisement => exact (hnow.publish hvalid).2
  | load roomCode => exact (hnow.load hvalid).2.1
  | clear roomCode => exact (hnow.clear hvalid).2

end calls

/-! ## A sequence of calls -/

/-- Valid calls in the order of their times. -/
structure Ordered (codec : AdvertisementCodec) (events : List DiscoveryEvent) : Prop where
  valid : ∀ e ∈ events, e.call.Valid codec
  clock : events.Pairwise (fun e e' => e.nowUnixSeconds ≤ e'.nowUnixSeconds)

theorem Ordered.sublist {codec : AdvertisementCodec} {events some : List DiscoveryEvent} (h : Ordered codec events)
    (hs : some.Sublist events) : Ordered codec some :=
  ⟨fun e he => h.valid e (hs.subset he), h.clock.sublist hs⟩

/-- **A directory stands for its store**, at every time behind the calls. -/
theorem Ordered.standsFor {codec : AdvertisementCodec} : ∀ {events : List DiscoveryEvent} {now : Nat}, Ordered codec events →
    (∀ e ∈ events, e.nowUnixSeconds ≤ now) → StandsFor codec (Directory.after codec events) (RoomStore.after events) now := by
  intro events
  induction events using List.reverseRecOn with
  | nil => exact fun _ _ => standsFor_empty codec _
  | append_singleton events e ih =>
    intro now hordered hnow
    obtain ⟨-, -, hlast⟩ := List.pairwise_append.1 hordered.clock
    have hbefore : StandsFor codec (Directory.after codec events) (RoomStore.after events) e.nowUnixSeconds :=
      ih (hordered.sublist (List.sublist_append_left _ _)) (fun e' he' => hlast e' he' e (List.mem_singleton_self e))
    have hmem : e ∈ events ++ [e] := List.mem_append_right _ (List.mem_singleton_self e)
    rw [Directory.after_snoc, RoomStore.after_snoc]
    exact (hbefore.apply (hordered.valid e hmem) le_rfl).later (hnow e hmem)

/-- The store of a room is that of the calls with its code. -/
theorem RoomStore.after_filter (key : List Char) (events : List DiscoveryEvent) :
    RoomStore.after (events.filter (fun e => e.key = key)) key = RoomStore.after events key := by
  induction events using List.reverseRecOn with
  | nil => rfl
  | append_singleton events e ih =>
    rw [List.filter_append, RoomStore.after_snoc]
    by_cases hkey : e.key = key
    · rw [List.filter_cons_of_pos (by simpa using hkey), List.filter_nil, RoomStore.after_snoc]
      unfold RoomStore.apply
      cases e.call <;> simp [hkey, ih]
    · rw [List.filter_cons_of_neg (by simpa using hkey), List.filter_nil, List.append_nil, ih,
        RoomStore.apply_of_not_writes (fun h => hkey h.1)]

/-- **The discovery directory is a store of rooms**: behind valid calls in the order of their times, a load of a code in any
spelling returns the advertisement that was published last for it, if it was not cleared since and is at most six hours
old, and none otherwise; one that is older is gone behind the load; and the calls with other codes might not have been. -/
theorem directory_is_a_store (codec : AdvertisementCodec) (events : List DiscoveryEvent) (hordered : Ordered codec events)
    (now : Nat) (hnow : ∀ e ∈ events, e.nowUnixSeconds ≤ now) (roomCode : String) (hcode : Twelve (codeChars roomCode)) :
    let key := compactRoomCode roomCode.toList
    let loaded := (Directory.after codec events).load codec roomCode now
    (∀ advertisement, loaded.2 = .ok (some advertisement) ↔
      LastPublished events key advertisement ∧ now - advertisement.publishedUnixSeconds ≤ 21600) ∧
    (loaded.2 = .ok none ↔
      ¬ ∃ advertisement, LastPublished events key advertisement ∧ now - advertisement.publishedUnixSeconds ≤ 21600) ∧
    (∀ advertisement, LastPublished events key advertisement → 21600 < now - advertisement.publishedUnixSeconds →
      loaded.1 key = none) ∧
    loaded.2 = ((Directory.after codec (events.filter (fun e => e.key = key))).load codec roomCode now).2 ∧
    -- and the calls that write go through
    (∀ advertisement, Publishable codec advertisement →
      ((Directory.after codec events).publish codec advertisement).2 = .ok ()) ∧
    ((Directory.after codec events).clear roomCode).2 = .ok () := by
  intro key loaded
  have hstands := hordered.standsFor hnow
  obtain ⟨hresult, -, hremoved⟩ := hstands.load hcode
  have hloaded : loaded.2 = .ok ((RoomStore.after events key).filter (fun a => ¬ Stale now a)) := hresult
  have hfresh : ∀ a : RoomEndpointAdvertisement, ¬ Stale now a ↔ now - a.publishedUnixSeconds ≤ 21600 :=
    fun a => Nat.not_lt
  have hsome : ∀ advertisement, loaded.2 = .ok (some advertisement) ↔
      LastPublished events key advertisement ∧ now - advertisement.publishedUnixSeconds ≤ 21600 := by
    intro advertisement
    rw [hloaded, Except.ok.injEq, Option.filter_eq_some_iff, RoomStore.after_eq_some, decide_eq_true_eq, hfresh]
  refine ⟨hsome, ?_, fun advertisement hlast hold => ?_, ?_, fun advertisement h => (hstands.publish h).1, (hstands.clear hcode).1⟩
  · constructor
    · rintro hnone ⟨advertisement, h⟩
      have hload := (hsome advertisement).2 h
      rw [hnone] at hload
      cases hload
    · intro hno
      rw [hloaded]
      cases hfilter : (RoomStore.after events key).filter (fun a => ¬ Stale now a) with
      | none => rfl
      | some advertisement =>
        rw [hfilter] at hloaded
        exact absurd ⟨advertisement, (hsome advertisement).1 hloaded⟩ hno
  · exact hremoved advertisement (RoomStore.after_eq_some.2 hlast) hold
  · have hsublist : (events.filter (fun e => e.key = key)).Sublist events := List.filter_sublist
    have hothers := ((hordered.sublist hsublist).standsFor (fun e he => hnow e (hsublist.subset he))).load hcode
    rw [hothers.1, hloaded, RoomStore.after_filter]

/-- `to_vec_pretty`, of an advertisement. -/
def prettyAdvertisement (advertisement : RoomEndpointAdvertisement) : List UInt8 :=
  let field := fun (name : String) (value : List Char) => "\n  ".toList ++ Json.writeStr name ++ ": ".toList ++ value
  Text.utf8 ('\x7b' :: field "roomCode" (Json.writeStr advertisement.roomCode) ++ [','] ++
    field "scaffolding" (Json.writeStr advertisement.scaffolding) ++ [','] ++
    field "minecraft" (Json.writeStr advertisement.minecraft) ++ [','] ++
    field "publishedUnixSeconds" (toString advertisement.publishedUnixSeconds).toList ++ ['\n', '\x7d'])

/-- A room that is published, and a codec that reads its text. -/
def publishedRoom : RoomEndpointAdvertisement := ⟨"AB12-CD34-EF56", "127.0.0.1:41234", "127.0.0.1:25565", 1700000000⟩

def publishedCodec : AdvertisementCodec where
  encode := prettyAdvertisement
  decode body := if body = prettyAdvertisement publishedRoom then some publishedRoom else none

/-- An hour later it is found in another spelling, six hours and a second later no more. -/
theorem published_room_is_loaded :
    let dir := Directory.after publishedCodec [⟨.publish publishedRoom, 1700000000⟩]
    (dir.load publishedCodec "ab12 cd34 ef56" 1700003600).2 = .ok (some publishedRoom) ∧
      (dir.load publishedCodec "ab12 cd34 ef56" 1700021601).2 = .ok none := by
  have hnormal : normalizeRoomCode publishedRoom.roomCode = .ok "AB12-CD34-EF56" := by decide
  have htyped : normalizeRoomCode "ab12 cd34 ef56" = .ok "AB12-CD34-EF56" := by decide
  have hwritten := (normalizeRoomCode_eq_ok.1 hnormal).1
  have htwelve := (normalizeRoomCode_eq_ok.1 htyped).1
  have hdecodes : publishedCodec.decode (prettyAdvertisement publishedRoom) = some publishedRoom := by
    simp only [publishedCodec, if_true]
  have hpublishable : Publishable publishedCodec publishedRoom :=
    ⟨hwritten, ⟨loopback 41234, by decide⟩, ⟨loopback 25565, by decide⟩, hdecodes⟩
  have hordered : Ordered publishedCodec [⟨.publish publishedRoom, 1700000000⟩] :=
    ⟨fun e he => by rw [List.mem_singleton.1 he]; exact hpublishable, List.pairwise_singleton _ _⟩
  have hlast : LastPublished [⟨.publish publishedRoom, 1700000000⟩] (compactRoomCode "ab12 cd34 ef56".toList)
      publishedRoom := ⟨[], _, [], rfl, rfl, by decide, fun _ h => absurd h List.not_mem_nil⟩
  have hnow : ∀ now, 1700000000 ≤ now → ∀ e ∈ [(⟨.publish publishedRoom, 1700000000⟩ : DiscoveryEvent)],
      e.nowUnixSeconds ≤ now := by
    intro now hle e he
    rw [List.mem_singleton.1 he]
    exact hle
  have hfresh := directory_is_a_store publishedCodec _ hordered 1700003600 (hnow _ (by decide)) "ab12 cd34 ef56" htwelve
  have hold := directory_is_a_store publishedCodec _ hordered 1700021601 (hnow _ (by decide)) "ab12 cd34 ef56" htwelve
  refine ⟨(hfresh.1 _).2 ⟨hlast, by decide⟩, hold.2.1.2 ?_⟩
  rintro ⟨advertisement, hother, hage⟩
  obtain rfl : advertisement = publishedRoom :=
    Option.some.inj ((RoomStore.after_eq_some.2 hother).symm.trans (RoomStore.after_eq_some.2 hlast))
  exact absurd hage (by decide)

end Terracotta
