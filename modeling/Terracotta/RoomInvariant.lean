import Mathlib
import Terracotta.RoomService
/-!
# What every room call leaves behind

`Settled` holds of a new service, and every call keeps it, whatever the backend answers: between calls the room is idle
and blank, active with a checked code, or faulted with its error.  The states a call passes through while it waits for
its backend (`Creating`, `Joining`, `Leaving`, `Diagnosing`) are never left behind.
-/
namespace Terracotta

/-! ## What the validators let through -/

/-- A stored session id: trimmed, 1 to 128 bytes, no control character. -/
structure ValidSessionId (id : String) : Prop where
  trimmed : Text.trim id.toList = id.toList
  nonempty : 1 ≤ Text.utf8Len id.toList
  bounded : Text.utf8Len id.toList ≤ 128
  printable : ∀ c ∈ id.toList, Text.isControl c = false

def isCodeChar (c : Char) : Bool := c.isUpper || c.isDigit

/-- `XXXX-XXXX-XXXX` over `A-Z0-9`. -/
def CanonicalRoomCode (code : String) : Prop :=
  ∃ a b c : List Char, a.length = 4 ∧ b.length = 4 ∧ c.length = 4 ∧
    (∀ x ∈ a ++ b ++ c, isCodeChar x = true) ∧ code.toList = a ++ '-' :: b ++ '-' :: c

theorem utf8Len_pos : ∀ {s : List Char}, s ≠ [] → 1 ≤ Text.utf8Len s
  | [], h => absurd rfl h
  | c :: s, _ => by
    have := c.utf8Size_pos
    simp only [Text.utf8Len, List.map_cons, List.sum_cons]
    omega

theorem validateSessionId_ok {value id : String} (h : validateSessionId value = .ok id) : ValidSessionId id := by
  unfold validateSessionId at h
  simp only at h
  split at h
  · cases h
  · rename_i hc
    simp only [not_or, Nat.not_lt, Bool.not_eq_true, List.any_eq_false] at hc
    obtain ⟨hne, hlen, hctl⟩ := hc
    simp only [Except.ok.injEq] at h
    subst h
    refine ⟨?_, ?_, ?_, ?_⟩ <;> rw [String.toList_ofList]
    · exact Text.trim_trim _
    · exact utf8Len_pos hne
    · exact hlen
    · exact fun c hm => by simpa using hctl c hm

theorem utf8Size_of_alphanum {c : Char} (h : c.isAlphanum = true) : c.utf8Size = 1 := by
  simp only [Char.isAlphanum, Char.isAlpha, Char.isUpper, Char.isLower, Char.isDigit, Bool.or_eq_true,
    Bool.and_eq_true, decide_eq_true_eq, ge_iff_le, UInt32.le_iff_toNat_le, Char.reduceVal, UInt32.reduceToNat] at h
  unfold Char.utf8Size
  simp only [UInt32.le_iff_toNat_le, UInt32.toNat_ofNatLT]
  rw [if_pos (by omega)]

theorem utf8Len_of_alphanum : ∀ {s : List Char}, (∀ c ∈ s, c.isAlphanum = true) → Text.utf8Len s = s.length
  | [], _ => rfl
  | c :: s, h => by
    have ih := utf8Len_of_alphanum (fun c hc => h c (List.mem_cons_of_mem _ hc))
    simp only [Text.utf8Len, List.map_cons, List.sum_cons, List.length_cons] at ih ⊢
    rw [ih, utf8Size_of_alphanum (h c List.mem_cons_self)]
    omega

/-- **What is left of a code has no small letter**, so an alphanumeric one is over `A-Z0-9`. -/
theorem isCodeChar_of_mem_compact {value : List Char} {c : Char} (hm : c ∈ compactRoomCode value)
    (h : c.isAlphanum = true) : isCodeChar c = true := by
  obtain ⟨x, -, rfl⟩ := List.mem_map.1 hm
  simpa [isCodeChar, Char.isAlphanum, Char.isAlpha] using h

theorem normalizeRoomCode_ok {value code : String} (h : normalizeRoomCode value = .ok code) :
    CanonicalRoomCode code := by
  unfold normalizeRoomCode at h
  simp only at h
  split at h
  · cases h
  · rename_i hc
    simp only [ne_eq, not_or, Decidable.not_not, Bool.not_eq_true, Bool.not_eq_false', List.all_eq_true] at hc
    obtain ⟨hlen, hall⟩ := hc
    rw [utf8Len_of_alphanum hall] at hlen
    simp only [Except.ok.injEq] at h
    subst h
    have hmem : ∀ n k, ∀ x ∈ ((compactRoomCode value.toList).drop n).take k, isCodeChar x = true := fun n k x hx =>
      have hx := List.mem_of_mem_drop (List.mem_of_mem_take hx)
      isCodeChar_of_mem_compact hx (hall x hx)
    refine ⟨(compactRoomCode value.toList).take 4, ((compactRoomCode value.toList).drop 4).take 4,
      ((compactRoomCode value.toList).drop 8).take 4, ?_, ?_, ?_, ?_, ?_⟩
    · simp [hlen]
    · simp [hlen]
    · simp [hlen]
    · intro x hx
      rcases List.mem_append.1 hx with hx | hx
      · rcases List.mem_append.1 hx with hx | hx
        · exact hmem 0 4 x hx
        · exact hmem 4 4 x hx
      · exact hmem 8 4 x hx
    · rw [String.toList_ofList]; rfl

theorem validateOption_ok {α β : Type} {check : α → Except RoomError β} {P : β → Prop}
    (hcheck : ∀ a b, check a = .ok b → P b) {x : Option α} {y : Option β} (h : validateOption check x = .ok y) :
    ∀ b ∈ y, P b := by
  intro b hb
  cases x with
  | none => cases h; cases hb
  | some a =>
    simp only [validateOption] at h
    cases ha : check a with
    | error e => rw [ha] at h; cases h
    | ok c =>
      rw [ha] at h
      cases h
      cases hb
      exact hcheck a b ha

theorem validateBackendRoom_ok {room checked : BackendRoom} {require : Bool}
    (h : validateBackendRoom room require = .ok checked) :
    CanonicalRoomCode checked.roomCode ∧ (require = true → checked.localAddress.isSome = true) := by
  unfold validateBackendRoom at h
  simp only [bind, Except.bind, pure, Except.pure] at h
  split at h
  · cases h
  · rename_i code hcode
    split at h
    · cases h
    · rename_i address haddr
      split at h
      · cases h
      · rename_i hreq
        cases h
        refine ⟨normalizeRoomCode_ok hcode, fun hr => ?_⟩
        cases address with
        | none => exact absurd ⟨hr, rfl⟩ hreq
        | some a => rfl

/-! ## The invariant -/

structure RoomSnapshot.Active (s : RoomSnapshot) : Prop where
  role : s.role = .host ∨ s.role = .member
  code : ∃ code, s.roomCode = some code ∧ CanonicalRoomCode code
  network : s.network.isSome = true
  noError : s.errorCode = none ∧ s.errorMessage = none
  hostSession : s.role = .host → s.gameSessionId.isSome = true
  memberAddress : s.role = .member → s.localAddress.isSome = true

structure RoomSnapshot.Broken (s : RoomSnapshot) : Prop where
  role : s.role = .host ∨ s.role = .member
  error : s.errorCode.isSome = true ∧ s.errorMessage.isSome = true
  blank : s.roomCode = none ∧ s.localAddress = none ∧ s.network = none ∧ s.members = []

/-- **What a room service holds between two calls.** -/
structure RoomService.Settled (svc : RoomService) : Prop where
  lifecycle : svc.state.state = .idle ∨ svc.state.state = .connected ∨ svc.state.state = .reconnecting ∨
    svc.state.state = .faulted
  idle : svc.state.state = .idle → svc.state = .idle ∧ svc.knownMembers = []
  active : svc.state.state = .connected ∨ svc.state.state = .reconnecting → svc.state.Active
  faulted : svc.state.state = .faulted → svc.state.Broken
  session : ∀ id ∈ svc.state.gameSessionId, ValidSessionId id

theorem settled_new : RoomService.new.Settled where
  lifecycle := Or.inl rfl
  idle := fun _ => ⟨rfl, rfl⟩
  active := fun h => by rcases h with h | h <;> cases h
  faulted := fun h => by cases h
  session := fun _ h => by cases h

/-- **A room that is active settles the service**, whatever members are announced. -/
theorem settled_of_active {svc : RoomService} (hs : svc.state.state = .connected ∨ svc.state.state = .reconnecting)
    (ha : svc.state.Active) (hid : ∀ id ∈ svc.state.gameSessionId, ValidSessionId id) : svc.Settled where
  lifecycle := by rcases hs with h | h <;> simp [h]
  idle := fun h => by rcases hs with h' | h' <;> rw [h'] at h <;> cases h
  active := fun _ => ha
  faulted := fun h => by rcases hs with h' | h' <;> rw [h'] at h <;> cases h
  session := hid

/-- **So does a stored fault**, with a role that opened the room. -/
theorem settled_of_faulted (svc : RoomService) {role : RoomRole} {gameSessionId : Option String} (error : RoomError)
    (hrole : role = .host ∨ role = .member) (hid : ∀ id ∈ gameSessionId, ValidSessionId id) :
    RoomService.Settled { svc with state := .faulted role gameSessionId error } where
  lifecycle := Or.inr (Or.inr (Or.inr rfl))
  idle := fun h => by cases h
  active := fun h => by rcases h with h | h <;> cases h
  faulted := fun _ => ⟨hrole, ⟨rfl, rfl⟩, ⟨rfl, rfl, rfl, rfl⟩⟩
  session := hid

theorem RoomService.Settled.role {svc : RoomService} (h : svc.Settled) (hne : svc.state.state ≠ .idle) :
    svc.state.role = .host ∨ svc.state.role = .member := by
  rcases h.lifecycle with h' | h' | h' | h'
  · exact absurd h' hne
  · exact (h.active (Or.inl h')).role
  · exact (h.active (Or.inr h')).role
  · exact (h.faulted h').role

/-! ### The calls -/

theorem openFinish_settled (svc : RoomService) {role : RoomRole} {gameSessionId : Option String} {require : Bool}
    (answer : Except RoomError BackendRoom) (hrole : role = .host ∨ role = .member)
    (hid : ∀ id ∈ gameSessionId, ValidSessionId id) (hhost : role = .host → gameSessionId.isSome = true)
    (hmember : role = .member → require = true) : (svc.openFinish role gameSessionId require answer).1.Settled := by
  unfold RoomService.openFinish
  split
  · exact settled_of_faulted svc _ hrole hid
  · rename_i room hroom
    cases answer with
    | error e => cases hroom
    | ok answered =>
      obtain ⟨hcode, haddr⟩ := @validateBackendRoom_ok answered _ _ hroom
      refine settled_of_active (Or.inl rfl) ⟨hrole, ⟨_, rfl, hcode⟩, rfl, ⟨rfl, rfl⟩, hhost, fun h => ?_⟩ hid
      exact haddr (hmember h)

theorem createBegin_ok {svc svc' : RoomService} {request request' : CreateRoomRequest}
    (h : svc.createBegin request = .ok (svc', request')) :
    svc.state.state = .idle ∧ svc' = { svc with state := .pending .creating .host (some request'.gameSessionId) } ∧
      ValidSessionId request'.gameSessionId := by
  unfold RoomService.createBegin at h
  simp only [bind, Except.bind, pure, Except.pure] at h
  split at h
  · cases h
  · rename_i id hid
    split at h
    · cases h
    · split at h
      · cases h
      · rename_i hstate
        cases h
        exact ⟨Decidable.not_not.1 hstate, rfl, validateSessionId_ok hid⟩

theorem joinBegin_ok {svc svc' : RoomService} {request request' : JoinRoomRequest}
    (h : svc.joinBegin request = .ok (svc', request')) :
    svc.state.state = .idle ∧ svc' = { svc with state := .pending .joining .member request'.gameSessionId } ∧
      ∀ id ∈ request'.gameSessionId, ValidSessionId id := by
  unfold RoomService.joinBegin at h
  simp only [bind, Except.bind, pure, Except.pure] at h
  split at h
  · cases h
  · split at h
    · cases h
    · rename_i id hid
      split at h
      · cases h
      · rename_i hstate
        cases h
        exact ⟨Decidable.not_not.1 hstate, rfl, validateOption_ok (fun _ _ => validateSessionId_ok) hid⟩

theorem create_settled {svc : RoomService} (h : svc.Settled) (request : CreateRoomRequest)
    (answer : Except RoomError BackendRoom) : (svc.create request answer).1.Settled := by
  unfold RoomService.create
  split
  · exact h
  · rename_i svc' request' hb
    obtain ⟨-, -, hid⟩ := createBegin_ok hb
    refine openFinish_settled svc' answer (Or.inl rfl) (fun id hm => ?_) (fun _ => rfl) (fun hm => by cases hm)
    cases hm
    exact hid

theorem join_settled {svc : RoomService} (h : svc.Settled) (request : JoinRoomRequest)
    (answer : Except RoomError BackendRoom) : (svc.join request answer).1.Settled := by
  unfold RoomService.join
  split
  · exact h
  · rename_i svc' request' hb
    obtain ⟨-, -, hid⟩ := joinBegin_ok hb
    exact openFinish_settled svc' answer (Or.inr rfl) hid (fun hm => by cases hm) (fun _ => rfl)

/-- **A refresh moves an active room only between connected and reconnecting**, and keeps role, code, session and the
missing error. -/
theorem applyNetwork_frame (s : RoomSnapshot) (network : NetworkStatus)
    (hs : s.state = .connected ∨ s.state = .reconnecting) :
    ((applyNetwork s network).1.state = .connected ∨ (applyNetwork s network).1.state = .reconnecting) ∧
      ∃ state, (applyNetwork s network).1 = { s with state, network := some network } := by
  unfold applyNetwork
  simp only
  split
  · exact ⟨Or.inr rfl, .reconnecting, rfl⟩
  · split
    · exact ⟨Or.inl rfl, .connected, rfl⟩
    · exact ⟨hs, s.state, rfl⟩

theorem pollState_active (s : RoomSnapshot) (refresh : BackendRefresh)
    (hs : s.state = .connected ∨ s.state = .reconnecting) (ha : s.Active) :
    ((pollState s refresh).1.state = .connected ∨ (pollState s refresh).1.state = .reconnecting) ∧
      (pollState s refresh).1.Active ∧ (pollState s refresh).1.gameSessionId = s.gameSessionId := by
  have hor : ∀ x y : Option String, y.isSome = true → (x.or y).isSome = true := by
    intro x y hy
    cases x <;> simp [hy]
  unfold pollState
  cases refresh.network with
  | none =>
    exact ⟨hs, ⟨ha.role, ha.code, ha.network, ha.noError, ha.hostSession, fun h => hor _ _ (ha.memberAddress h)⟩, rfl⟩
  | some network =>
    obtain ⟨hstate, state, heq⟩ := applyNetwork_frame s network hs
    simp only
    rw [heq] at hstate ⊢
    exact ⟨hstate, ⟨ha.role, ha.code, rfl, ha.noError, ha.hostSession, fun h => hor _ _ (ha.memberAddress h)⟩, rfl⟩

theorem pollAndEmit_settled {svc : RoomService} (h : svc.Settled) (refresh : Except RoomError BackendRefresh) :
    (svc.pollAndEmit refresh).Settled := by
  unfold RoomService.pollAndEmit
  split
  · exact h
  · rename_i refresh
    split
    · rename_i hstate
      have hs : svc.state.state = .connected ∨ svc.state.state = .reconnecting := by
        rcases hstate with hc | hc | hc
        · exact Or.inl hc
        · exact Or.inr hc
        · have hl := h.lifecycle
          simp [hc] at hl
      obtain ⟨hstate', ha', hid'⟩ := pollState_active svc.state refresh hs (h.active hs)
      have hid : ∀ id ∈ (pollState svc.state refresh).1.gameSessionId, ValidSessionId id := by
        rw [hid']; exact h.session
      simp only
      split
      · exact settled_of_active hstate' ha' hid
      · exact settled_of_active hstate' ha' hid
    · exact h

theorem setLanAddress_settled {svc : RoomService} (h : svc.Settled) (request : SetLanAddressRequest)
    (answer : Except RoomError Unit) (refresh : Except RoomError BackendRefresh) :
    (svc.setLanAddress request answer refresh).1.Settled := by
  unfold RoomService.setLanAddress
  split
  · exact h
  · split
    · exact h
    · split
      · exact h
      · exact pollAndEmit_settled h refresh

theorem diagnose_settled {svc : RoomService} (h : svc.Settled) (refresh : Except RoomError BackendRefresh)
    (answer : Except RoomError NetworkStatus) : (svc.diagnose refresh answer).1.Settled := by
  unfold RoomService.diagnose RoomService.diagnoseBegin
  split
  · exact h
  · rename_i svc' previous hb
    split at hb
    · cases hb
    · rename_i hstate
      simp only [Except.ok.injEq, Prod.mk.injEq] at hb
      obtain ⟨rfl, rfl⟩ := hb
      have hs : svc.state.state = .connected ∨ svc.state.state = .reconnecting := by
        by_contra hn
        exact hstate (not_or.1 hn)
      have ha := h.active hs
      unfold RoomService.diagnoseFinish
      split
      · refine settled_of_active hs ⟨ha.role, ha.code, rfl, ha.noError, ha.hostSession, fun hm => ?_⟩ h.session
        have := ha.memberAddress hm
        simp only
        cases (refresh.toOption.getD {}).localAddress <;> simp [this]
      · split
        · exact settled_of_active hs ⟨ha.role, ha.code, rfl, ha.noError, ha.hostSession, ha.memberAddress⟩ h.session
        · exact settled_of_faulted svc _ ha.role h.session

theorem leave_settled {svc : RoomService} (h : svc.Settled) (answer : Except RoomError Unit) :
    (svc.leave answer).1.Settled := by
  unfold RoomService.leave
  split
  · exact h
  · rename_i hne
    split
    · exact h
    · split
      · exact ⟨Or.inl rfl, fun _ => ⟨rfl, rfl⟩, fun h => (by rcases h with h | h <;> cases h), fun h => (by cases h),
          fun _ h => (by cases h)⟩
      · exact settled_of_faulted svc _ (h.role hne) h.session

theorem step_settled {svc : RoomService} (h : svc.Settled) (call : RoomCall) : (svc.step call).Settled := by
  cases call with
  | create request answer => exact create_settled h request answer
  | join request answer => exact join_settled h request answer
  | setLanAddress request answer refresh => exact setLanAddress_settled h request answer refresh
  | diagnose refresh answer => exact diagnose_settled h refresh answer
  | leave answer => exact leave_settled h answer
  | status refresh => exact pollAndEmit_settled h refresh
  | pollAndEmit refresh => exact pollAndEmit_settled h refresh

theorem runCalls_settled_of : ∀ {svc : RoomService} (calls : List RoomCall), svc.Settled → (svc.runCalls calls).Settled
  | _, [], h => h
  | _, call :: calls, h => runCalls_settled_of calls (step_settled h call)

/-- **Between calls the room is settled**: for every backend and every sequence of calls run one at a time. -/
theorem runCalls_settled (calls : List RoomCall) : (RoomService.new.runCalls calls).Settled :=
  runCalls_settled_of calls settled_new

end Terracotta
