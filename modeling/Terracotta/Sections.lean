import Terracotta.Concurrent
/-!
# The sections of a room call

What a call does to the stored snapshot, as one function of it (`effect`), and what each section does of that: a call is
refused or done in one section, or it stores a pending state, waits for its backend, and finishes in a last section what
it began (`advance_section`).
-/
namespace Terracotta

/-! ## What a call does to the stored snapshot -/

/-- The part of `create` before it takes the state lock. -/
def checkCreate (request : CreateRoomRequest) : Except RoomError CreateRoomRequest := do
  let gameSessionId ← validateSessionId request.gameSessionId
  let lanAddress ← validateLoopbackAddress request.lanAddress
  return { request with gameSessionId, lanAddress := lanAddress.toString }

def checkJoin (request : JoinRoomRequest) : Except RoomError JoinRoomRequest := do
  let roomCode ← normalizeRoomCode request.roomCode
  let gameSessionId ← validateOption validateSessionId request.gameSessionId
  return { roomCode, gameSessionId }

/-- What an opened room leaves behind, from the backend's answer. -/
def openOutcome (role : RoomRole) (gameSessionId : Option String) (requireLocalAddress : Bool)
    (answer : Except RoomError BackendRoom) : RoomSnapshot × CallResult :=
  match answer.bind (fun room => validateBackendRoom room requireLocalAddress) with
  | .error error => (.faulted role gameSessionId error, .room (.error error))
  | .ok room => (openedSnapshot role gameSessionId room, .room (.ok (openedSnapshot role gameSessionId room)))

/-- What a diagnosis leaves behind. -/
def diagnoseOutcome (state : RoomSnapshot) (previous : RoomState) (refresh : BackendRefresh)
    (answer : Except RoomError NetworkStatus) : RoomSnapshot × CallResult :=
  match refresh.network with
  | some network =>
    (state.restore previous network refresh.members refresh.localAddress, .network (.ok network))
  | none => match answer with
    | .ok network => (state.restore previous network none none, .network (.ok network))
    | .error error => (.faulted state.role state.gameSessionId error, .network (.error error))

def notConnected : RoomError := ⟨"room.not-connected", "Network diagnostics require an active room.", false⟩

namespace ServiceCall

/-- **The call as a function of the stored snapshot.** -/
def effect (state : RoomSnapshot) : ServiceCall → RoomSnapshot × CallResult
  | .create request answer => match checkCreate request with
    | .error error => (state, .room (.error error))
    | .ok request => if state.state = .idle then openOutcome .host (some request.gameSessionId) false answer
      else (state, .room (.error RoomError.busy))
  | .join request answer => match checkJoin request with
    | .error error => (state, .room (.error error))
    | .ok request => if state.state = .idle then openOutcome .member request.gameSessionId true answer
      else (state, .room (.error RoomError.busy))
  | .diagnose refresh answer =>
    if state.state = .connected ∨ state.state = .reconnecting then
      diagnoseOutcome state state.state (refresh.toOption.getD {}) answer
    else (state, .network (.error notConnected))
  | .leave answer =>
    if state.state = .idle then (state, .room (.ok state))
    else if state.state = .leaving then (state, .room (.error RoomError.busy))
    else match answer with
      | .ok () => (.idle, .room (.ok .idle))
      | .error error => (.faulted state.role state.gameSessionId error, .room (.error error))
  | .pollAndEmit refresh => match refresh with
    | .error _ => (state, .unit)
    | .ok refresh =>
      if state.state = .connected ∨ state.state = .reconnecting ∨ state.state = .diagnosing then
        ((pollState state refresh).1, .unit)
      else (state, .unit)

theorem createBegin_eq (svc : RoomService) (request : CreateRoomRequest) :
    svc.createBegin request = match checkCreate request with
      | .error error => .error error
      | .ok request => if svc.state.state = .idle then
          .ok ({ svc with state := .pending .creating .host (some request.gameSessionId) }, request)
        else .error RoomError.busy := by
  unfold RoomService.createBegin checkCreate
  simp only [bind, Except.bind, pure, Except.pure]
  cases validateSessionId request.gameSessionId with
  | error e => rfl
  | ok id =>
    cases validateLoopbackAddress request.lanAddress with
    | error e => rfl
    | ok address => by_cases h : svc.state.state = .idle <;> simp [h]

theorem joinBegin_eq (svc : RoomService) (request : JoinRoomRequest) :
    svc.joinBegin request = match checkJoin request with
      | .error error => .error error
      | .ok request => if svc.state.state = .idle then
          .ok ({ svc with state := .pending .joining .member request.gameSessionId }, request)
        else .error RoomError.busy := by
  unfold RoomService.joinBegin checkJoin
  simp only [bind, Except.bind, pure, Except.pure]
  cases normalizeRoomCode request.roomCode with
  | error e => rfl
  | ok code =>
    cases validateOption validateSessionId request.gameSessionId with
    | error e => rfl
    | ok id => by_cases h : svc.state.state = .idle <;> simp [h]

theorem diagnoseBegin_eq (svc : RoomService) :
    svc.diagnoseBegin = if svc.state.state = .connected ∨ svc.state.state = .reconnecting then
        .ok ({ svc with state := { svc.state with state := .diagnosing } }, svc.state.state)
      else .error notConnected := by
  unfold RoomService.diagnoseBegin
  cases svc.state.state <;> rfl

theorem diagnoseFinish_eq (svc : RoomService) (previous : RoomState) (refresh : BackendRefresh)
    (answer : Except RoomError NetworkStatus) :
    ((svc.diagnoseFinish previous refresh answer).1.state,
      CallResult.network (svc.diagnoseFinish previous refresh answer).2) =
      diagnoseOutcome svc.state previous refresh answer := by
  unfold RoomService.diagnoseFinish diagnoseOutcome
  cases refresh.network with
  | some network => rfl
  | none => cases answer <;> rfl

theorem openFinish_eq (svc : RoomService) (role : RoomRole) (id : Option String) (require : Bool)
    (answer : Except RoomError BackendRoom) :
    ((svc.openFinish role id require answer).1.state, CallResult.room (svc.openFinish role id require answer).2) =
      openOutcome role id require answer := by
  unfold RoomService.openFinish openOutcome
  cases answer.bind (fun room => validateBackendRoom room require) <;> rfl

/-- **A call run alone does to the snapshot what `effect` says**, and returns what it says. -/
theorem run_effect (svc : RoomService) : ∀ call : ServiceCall, ((call.run svc).1.state, (call.run svc).2) = call.effect svc.state
  | .create request answer => by
    simp only [run, RoomService.create, effect, createBegin_eq]
    cases checkCreate request with
    | error e => rfl
    | ok request =>
      by_cases h : svc.state.state = .idle
      · simp only [if_pos h]
        exact openFinish_eq _ _ _ _ _
      · simp only [if_neg h]
  | .join request answer => by
    simp only [run, RoomService.join, effect, joinBegin_eq]
    cases checkJoin request with
    | error e => rfl
    | ok request =>
      by_cases h : svc.state.state = .idle
      · simp only [if_pos h]
        exact openFinish_eq _ _ _ _ _
      · simp only [if_neg h]
  | .diagnose refresh answer => by
    simp only [run, RoomService.diagnose, effect, diagnoseBegin_eq]
    by_cases h : svc.state.state = .connected ∨ svc.state.state = .reconnecting
    · simp only [if_pos h]
      exact diagnoseFinish_eq _ _ _ _
    · simp only [if_neg h]
  | .leave answer => by
    simp only [run, RoomService.leave, effect]
    split
    · rfl
    split
    · rfl
    cases answer <;> rfl
  | .pollAndEmit refresh => by
    cases refresh with
    | error e => rfl
    | ok refresh =>
      simp only [run, RoomService.pollAndEmit, effect]
      split
      · cases refresh.members <;> rfl
      · rfl


end ServiceCall

/-! ## Sections -/

namespace CallPc

/-- The call has stored its pending state and not yet what comes of it. -/
def held : CallPc → Bool
  | .opening .. | .replacing _ | .storing _ | .refreshing _ | .diagnosing _ | .restoring .. | .leaving | .storingIdle
  | .reading _ | .faulting .. => true
  | _ => false

/-- What a call returns that has been through its last section under the state lock. -/
def result : CallPc → Option CallResult
  | .announcing .. => some .unit
  | .clearing => some (.room (.ok .idle))
  | .done result => some result
  | _ => none

/-- The state a diagnosis comes back to. -/
def previous : CallPc → Option RoomState
  | .refreshing previous | .diagnosing previous | .restoring previous _ _ _ => some previous
  | _ => none

end CallPc

namespace ServiceCall

/-- The state a call stores while it waits for its backend. -/
def pendingState : ServiceCall → RoomState
  | .create _ _ => .creating
  | .join _ _ => .joining
  | .diagnose _ _ => .diagnosing
  | .leave _ => .leaving
  | .pollAndEmit _ => .idle

/-- `diagnose` and `leave` change nothing but the state of the snapshot they find. -/
def keepsRoom : ServiceCall → Bool
  | .diagnose _ _ | .leave _ => true
  | _ => false

/-- The first section of a call under the state lock. -/
def entry : ServiceCall → CallPc
  | .pollAndEmit (.ok _) => .polled
  | _ => .start

/-- The states in which a call gets to its backend. -/
def Admits : ServiceCall → RoomState → Prop
  | .create _ _, state | .join _ _, state => state = .idle
  | .diagnose _ _, state => state = .connected ∨ state = .reconnecting
  | .leave _, state => state ≠ .idle ∧ state ≠ .leaving
  | .pollAndEmit _, _ => False

/-- **What is left of a call**, run to its end from a snapshot. -/
def finish (state : RoomSnapshot) : ServiceCall → CallPc → RoomSnapshot × CallResult
  | .create _ answer, .opening role gameSessionId requireLocalAddress
  | .join _ answer, .opening role gameSessionId requireLocalAddress =>
    openOutcome role gameSessionId requireLocalAddress answer
  | _, .replacing snapshot | _, .storing snapshot => (snapshot, .room (.ok snapshot))
  | .diagnose refresh answer, .refreshing previous =>
    diagnoseOutcome state previous (refresh.toOption.getD {}) answer
  | .diagnose _ answer, .diagnosing previous => diagnoseOutcome state previous {} answer
  | .diagnose _ _, .restoring previous network members localAddress =>
    (state.restore previous network members localAddress, .network (.ok network))
  | .leave (.ok ()), .leaving => (.idle, .room (.ok .idle))
  | .leave (.error error), .leaving => (.faulted state.role state.gameSessionId error, .room (.error error))
  | _, .storingIdle => (.idle, .room (.ok .idle))
  | .diagnose _ _, .reading error => (.faulted state.role state.gameSessionId error, .network (.error error))
  | .leave _, .reading error => (.faulted state.role state.gameSessionId error, .room (.error error))
  | call, .faulting role gameSessionId error => (.faulted role gameSessionId error, call.failed error)
  | _, _ => (.idle, .unit)

/-- `finish` reads nothing of the snapshot but the room. -/
theorem finish_state (state : RoomSnapshot) (pending : RoomState) (call : ServiceCall) (pc : CallPc) :
    call.finish { state with state := pending } pc = call.finish state pc := by
  cases pc with
  | leaving => rcases call with _ | _ | _ | ⟨_ | _⟩ | _ <;> rfl
  | _ => cases call <;> rfl

/-- What `create` and `join` leave behind has nothing of the snapshot they found. -/
theorem finish_of_not_keepsRoom {call : ServiceCall} (hcall : call.keepsRoom = false) (pc : CallPc)
    (state state' : RoomSnapshot) : call.finish state pc = call.finish state' pc := by
  cases call with
  | create _ _ | join _ _ | pollAndEmit _ => cases pc <;> rfl
  | diagnose _ _ | leave _ => cases hcall

/-- The states a call can end in that got to its backend. -/
def Ends : ServiceCall → RoomState → Prop
  | .create _ _, state | .join _ _, state => state = .connected ∨ state = .faulted
  | .leave _, state => state = .idle ∨ state = .faulted
  | .diagnose _ _, _ | .pollAndEmit _, _ => True

theorem openOutcome_ends (role : RoomRole) (id : Option String) (require : Bool) (answer : Except RoomError BackendRoom) :
    (openOutcome role id require answer).1.state = .connected ∨
      (openOutcome role id require answer).1.state = .faulted := by
  unfold openOutcome
  split
  · exact Or.inr rfl
  · exact Or.inl rfl

/-- What is left of a call does what the whole call does to a snapshot `state` that it could have begun with, of the same
room as `base`. -/
def Completes (base : RoomSnapshot) (call : ServiceCall) (pc : CallPc) : Prop :=
  ∀ state : RoomSnapshot, call.Admits state.state → (∀ previous ∈ pc.previous, previous = state.state) →
    (call.keepsRoom = true → state.role = base.role ∧ state.gameSessionId = base.gameSessionId) →
      call.finish state pc = call.effect state

/-- **What one section of a call is**: nothing under the state lock, the whole call, its first section, a return of the
backend, or its last section. -/
inductive Section (svc : RoomService) (call : ServiceCall) (pc : CallPc) (svc' : RoomService) (pc' : CallPc) : Prop where
  | quiet (hpc : pc.held = false) (hpc' : pc'.held = false) (hresult : pc'.result = pc.result)
      (hstate : svc'.state = svc.state)
  | whole (hpc : pc = call.entry) (hpc' : pc'.held = false) (result : CallResult)
      (hresult : pc'.result = some result) (heffect : (svc'.state, result) = call.effect svc.state)
  | first (hpc : pc = .start) (hpc' : pc'.held = true) (hadmits : call.Admits svc.state.state)
      (hstate : svc'.state.state = call.pendingState)
      (hkeeps : call.keepsRoom = true → svc'.state = { svc.state with state := call.pendingState })
      (hprevious : ∀ previous ∈ pc'.previous, previous = svc.state.state)
      (hcompletes : call.Completes svc.state pc')
      (hends : ∀ state : RoomSnapshot, call.Admits state.state → call.Ends (call.effect state).1.state)
  | between (hpc : pc.held = true) (hpc' : pc'.held = true) (hstate : svc'.state = svc.state)
      (hprevious : ∀ previous ∈ pc'.previous, previous ∈ pc.previous)
      (hcompletes : ∀ base : RoomSnapshot, call.Admits base.state → (∀ previous ∈ pc.previous, previous = base.state) →
        (call.keepsRoom = true → svc.state.role = base.role ∧ svc.state.gameSessionId = base.gameSessionId) →
          call.Completes base pc → call.Completes base pc')
  | last (hpc : pc.held = true) (hpc' : pc'.held = false) (result : CallResult) (hresult : pc'.result = some result)
      (hfinish : (svc'.state, result) = call.finish svc.state pc)

theorem advance_start {svc svc' : RoomService} {call : ServiceCall} {pc' : CallPc}
    (h : call.advance svc .start = some (svc', pc')) : Section svc call .start svc' pc' := by
  cases call with
  | create request answer =>
    unfold advance at h
    simp only [createBegin_eq] at h
    cases hcheck : checkCreate request with
    | error e =>
      rw [hcheck] at h
      cases h
      exact .whole rfl rfl _ rfl (by simp [effect, hcheck])
    | ok request' =>
      simp only [hcheck] at h
      by_cases hidle : svc.state.state = .idle
      · simp only [if_pos hidle] at h
        cases h
        have heffect : ∀ state : RoomSnapshot, state.state = .idle → (create request answer).effect state =
            openOutcome .host (some request'.gameSessionId) false answer := by
          intro state hs
          simp only [effect, hcheck]
          rw [if_pos hs]
        refine .first rfl rfl hidle rfl (fun hk => by cases hk) (fun _ hp => by cases hp)
          (fun state hs _ _ => (heffect state hs).symm) (fun state hs => ?_)
        rw [heffect state hs]
        exact openOutcome_ends _ _ _ _
      · simp only [if_neg hidle] at h
        cases h
        exact .whole rfl rfl _ rfl (by simp [effect, hcheck, hidle])
  | join request answer =>
    unfold advance at h
    simp only [joinBegin_eq] at h
    cases hcheck : checkJoin request with
    | error e =>
      rw [hcheck] at h
      cases h
      exact .whole rfl rfl _ rfl (by simp [effect, hcheck])
    | ok request' =>
      simp only [hcheck] at h
      by_cases hidle : svc.state.state = .idle
      · simp only [if_pos hidle] at h
        cases h
        have heffect : ∀ state : RoomSnapshot, state.state = .idle → (join request answer).effect state =
            openOutcome .member request'.gameSessionId true answer := by
          intro state hs
          simp only [effect, hcheck]
          rw [if_pos hs]
        refine .first rfl rfl hidle rfl (fun hk => by cases hk) (fun _ hp => by cases hp)
          (fun state hs _ _ => (heffect state hs).symm) (fun state hs => ?_)
        rw [heffect state hs]
        exact openOutcome_ends _ _ _ _
      · simp only [if_neg hidle] at h
        cases h
        exact .whole rfl rfl _ rfl (by simp [effect, hcheck, hidle])
  | diagnose refresh answer =>
    unfold advance at h
    simp only [diagnoseBegin_eq] at h
    by_cases hlive : svc.state.state = .connected ∨ svc.state.state = .reconnecting
    · simp only [if_pos hlive] at h
      cases h
      refine .first rfl rfl hlive rfl (fun _ => rfl) (fun _ hp => by cases hp; rfl) (fun state hs hp _ => ?_)
        (fun _ _ => trivial)
      have hs : state.state = .connected ∨ state.state = .reconnecting := hs
      simp only [effect]
      rw [if_pos hs, ← hp _ rfl]
      rfl
    · simp only [if_neg hlive] at h
      cases h
      exact .whole rfl rfl _ rfl (by simp [effect, hlive])
  | leave answer =>
    unfold advance at h
    simp only at h
    by_cases hidle : svc.state.state = .idle
    · simp only [if_pos hidle] at h
      cases h
      exact .whole rfl rfl _ rfl (by simp [effect, hidle])
    simp only [if_neg hidle] at h
    by_cases hleaving : svc.state.state = .leaving
    · simp only [if_pos hleaving] at h
      cases h
      exact .whole rfl rfl _ rfl (by simp [effect, hleaving])
    · simp only [if_neg hleaving] at h
      cases h
      refine .first rfl rfl ⟨hidle, hleaving⟩ rfl (fun _ => rfl) (fun _ hp => by cases hp) (fun state hs _ _ => ?_)
        (fun state hs => ?_)
      · simp only [effect]
        rw [if_neg hs.1, if_neg hs.2]
        cases answer <;> rfl
      · simp only [effect]
        rw [if_neg hs.1, if_neg hs.2]
        cases answer <;> first | exact Or.inl rfl | exact Or.inr rfl
  | pollAndEmit refresh =>
    cases refresh with
    | error e => cases h; exact .whole rfl rfl _ rfl rfl
    | ok refresh => cases h; exact .quiet rfl rfl rfl rfl

/-- A section that changes nothing of what is left of the call. -/
theorem completes_of_eq {base : RoomSnapshot} {call : ServiceCall} {pc pc' : CallPc} (h : call.Completes base pc)
    (hprevious : pc'.previous = pc.previous)
    (hfinish : ∀ state : RoomSnapshot, (call.keepsRoom = true → state.role = base.role ∧
      state.gameSessionId = base.gameSessionId) → call.finish state pc' = call.finish state pc) :
    call.Completes base pc' := by
  intro state hadmits hp hsame
  rw [hprevious] at hp
  rw [hfinish state hsame]
  exact h state hadmits hp hsame

theorem advance_opening {svc svc' : RoomService} {call : ServiceCall} {role : RoomRole} {id : Option String}
    {require : Bool} {pc' : CallPc} (h : call.advance svc (.opening role id require) = some (svc', pc')) :
    Section svc call (.opening role id require) svc' pc' := by
  cases call with
  | create _ answer | join _ answer =>
    unfold advance at h
    simp only at h
    cases hanswer : answer.bind (fun room => validateBackendRoom room require) with
    | error e =>
      rw [hanswer] at h
      cases h
      refine .between rfl rfl rfl (fun _ hp => hp) (fun base _ _ _ hc => completes_of_eq hc rfl (fun state _ => ?_))
      unfold finish
      simp [openOutcome, hanswer, failed]
    | ok room =>
      rw [hanswer] at h
      cases h
      refine .between rfl rfl rfl (fun _ hp => hp) (fun base _ _ _ hc => completes_of_eq hc rfl (fun state _ => ?_))
      unfold finish
      simp [openOutcome, hanswer]
  | diagnose _ _ | leave _ | pollAndEmit _ => cases h

theorem advance_refreshing {svc svc' : RoomService} {call : ServiceCall} {previous : RoomState} {pc' : CallPc}
    (h : call.advance svc (.refreshing previous) = some (svc', pc')) :
    Section svc call (.refreshing previous) svc' pc' := by
  cases call with
  | diagnose refresh answer =>
    unfold advance at h
    simp only at h
    cases hnetwork : (refresh.toOption.getD {}).network with
    | none =>
      rw [hnetwork] at h
      cases h
      refine .between rfl rfl rfl (fun _ hp => hp) (fun base _ _ _ hc => completes_of_eq hc rfl (fun state _ => ?_))
      unfold finish
      simp [diagnoseOutcome, hnetwork]
    | some network =>
      rw [hnetwork] at h
      cases h
      refine .between rfl rfl rfl (fun _ hp => hp) (fun base _ _ _ hc => completes_of_eq hc rfl (fun state _ => ?_))
      unfold finish
      simp [diagnoseOutcome, hnetwork]
  | create _ _ | join _ _ | leave _ | pollAndEmit _ => cases h

/-- **A diagnosis that gets to its own backend call found no network in the refresh.** -/
theorem refresh_without_network {base : RoomSnapshot} {refresh : Except RoomError BackendRefresh} {e : RoomError}
    {previous : RoomState} (hadmits : base.state = .connected ∨ base.state = .reconnecting) (hp : previous = base.state)
    (h : (ServiceCall.diagnose refresh (.error e)).Completes base (.diagnosing previous)) :
    (refresh.toOption.getD {}).network = none := by
  have hbase := h base hadmits (fun _ hm => by cases hm; exact hp) (fun _ => ⟨rfl, rfl⟩)
  simp only [effect] at hbase
  rw [if_pos hadmits] at hbase
  cases hnetwork : (refresh.toOption.getD {}).network with
  | none => rfl
  | some network => simp [finish, diagnoseOutcome, hnetwork] at hbase

theorem advance_diagnosing {svc svc' : RoomService} {call : ServiceCall} {previous : RoomState} {pc' : CallPc}
    (h : call.advance svc (.diagnosing previous) = some (svc', pc')) :
    Section svc call (.diagnosing previous) svc' pc' := by
  cases call with
  | diagnose refresh answer =>
    cases answer with
    | ok network =>
      cases h
      exact .between rfl rfl rfl (fun _ hp => hp) (fun base _ _ _ hc => completes_of_eq hc rfl (fun state _ => rfl))
    | error e =>
      cases h
      refine .between rfl rfl rfl (fun _ hp => by cases hp) (fun base hadmits hp _ hc state hs _ _ => ?_)
      -- the state it found no longer matters, so the refresh must be known to have had no network
      have hnetwork := refresh_without_network hadmits (hp _ rfl) hc
      have hs : state.state = .connected ∨ state.state = .reconnecting := hs
      unfold finish
      simp [effect, diagnoseOutcome, hnetwork, hs]
  | create _ _ | join _ _ | leave _ | pollAndEmit _ => cases h

theorem advance_leaving {svc svc' : RoomService} {call : ServiceCall} {pc' : CallPc}
    (h : call.advance svc .leaving = some (svc', pc')) : Section svc call .leaving svc' pc' := by
  cases call with
  | leave answer =>
    cases answer with
    | ok _ =>
      cases h
      exact .between rfl rfl rfl (fun _ hp => hp) (fun base _ _ _ hc => completes_of_eq hc rfl (fun state _ => rfl))
    | error e =>
      cases h
      exact .between rfl rfl rfl (fun _ hp => hp) (fun base _ _ _ hc => completes_of_eq hc rfl (fun state _ => rfl))
  | create _ _ | join _ _ | diagnose _ _ | pollAndEmit _ => cases h

theorem advance_reading {svc svc' : RoomService} {call : ServiceCall} {e : RoomError} {pc' : CallPc}
    (h : call.advance svc (.reading e) = some (svc', pc')) : Section svc call (.reading e) svc' pc' := by
  cases call with
  | diagnose _ _ | leave _ =>
    cases h
    refine .between rfl rfl rfl (fun _ hp => hp) (fun base _ _ hsvc hc => completes_of_eq hc rfl (fun state hs => ?_))
    obtain ⟨hrole, hid⟩ := hsvc rfl
    obtain ⟨hrole', hid'⟩ := hs rfl
    unfold finish
    simp [failed, hrole, hid, hrole', hid']
  | create _ _ | join _ _ | pollAndEmit _ => cases h

theorem advance_polled {svc svc' : RoomService} {call : ServiceCall} {pc' : CallPc}
    (h : call.advance svc .polled = some (svc', pc')) : Section svc call .polled svc' pc' := by
  cases call with
  | pollAndEmit refresh =>
    cases refresh with
    | error e => cases h
    | ok refresh =>
      unfold advance at h
      simp only at h
      by_cases hlive : svc.state.state = .connected ∨ svc.state.state = .reconnecting ∨ svc.state.state = .diagnosing
      · simp only [if_pos hlive] at h
        cases hmembers : refresh.members with
        | none =>
          simp only [hmembers] at h
          cases h
          exact .whole rfl rfl _ rfl (by simp only [effect]; rw [if_pos hlive])
        | some members =>
          simp only [hmembers] at h
          cases h
          exact .whole rfl rfl _ rfl (by simp only [effect]; rw [if_pos hlive])
      · simp only [if_neg hlive] at h
        cases h
        exact .whole rfl rfl _ rfl (by simp only [effect]; rw [if_neg hlive])
  | create _ _ | join _ _ | diagnose _ _ | leave _ => cases h

/-- **Every step of a call is one of the five.** -/
theorem advance_section {svc svc' : RoomService} {call : ServiceCall} {pc pc' : CallPc}
    (h : call.advance svc pc = some (svc', pc')) : Section svc call pc svc' pc' := by
  cases pc with
  | start => exact advance_start h
  | polled => exact advance_polled h
  | opening role id require => exact advance_opening h
  | refreshing previous => exact advance_refreshing h
  | diagnosing previous => exact advance_diagnosing h
  | leaving => exact advance_leaving h
  | reading e => exact advance_reading h
  | announcing members events =>
    cases call <;> cases h
    exact .quiet rfl rfl rfl rfl
  | clearing =>
    cases call <;> cases h
    exact .quiet rfl rfl rfl rfl
  | replacing snapshot =>
    cases call <;> cases h <;>
      exact .between rfl rfl rfl (fun _ hp => hp) (fun base _ _ _ hc => completes_of_eq hc rfl (fun state _ => rfl))
  | storing snapshot => cases call <;> cases h <;> exact .last rfl rfl _ rfl rfl
  | restoring previous network members localAddress =>
    cases call <;> cases h
    exact .last rfl rfl _ rfl rfl
  | storingIdle =>
    cases call <;> cases h
    exact .last rfl rfl _ rfl rfl
  | faulting role id e => cases call <;> cases h <;> exact .last rfl rfl _ rfl rfl
  | done result => cases call <;> cases h

theorem entry_held (call : ServiceCall) : call.entry.held = false ∧ call.entry.result = none := by
  rcases call with _ | _ | _ | _ | ⟨_ | _⟩ <;> exact ⟨rfl, rfl⟩

/-! ## Refusals -/

def opens : ServiceCall → Bool
  | .create _ _ | .join _ _ => true
  | _ => false

/-- **A create or a join that does not find the room idle** leaves it alone, and is told so whatever the state is. -/
theorem opens_refused (call : ServiceCall) (hcall : call.opens = true) :
    ∃ result, ∀ state : RoomSnapshot, state.state ≠ .idle → call.effect state = (state, result) := by
  cases call with
  | create request answer =>
    cases hcheck : checkCreate request with
    | error e => exact ⟨.room (.error e), fun state _ => by simp [effect, hcheck]⟩
    | ok request' => exact ⟨.room (.error RoomError.busy), fun state hs => by simp [effect, hcheck, hs]⟩
  | join request answer =>
    cases hcheck : checkJoin request with
    | error e => exact ⟨.room (.error e), fun state _ => by simp [effect, hcheck]⟩
    | ok request' => exact ⟨.room (.error RoomError.busy), fun state hs => by simp [effect, hcheck, hs]⟩
  | diagnose _ _ | leave _ | pollAndEmit _ => cases hcall

theorem diagnose_refused (refresh : Except RoomError BackendRefresh) (answer : Except RoomError NetworkStatus)
    {state : RoomSnapshot} (h : ¬ (state.state = .connected ∨ state.state = .reconnecting)) :
    (ServiceCall.diagnose refresh answer).effect state = (state, .network (.error notConnected)) := by
  simp only [effect]
  rw [if_neg h]

theorem poll_refused (refresh : Except RoomError BackendRefresh) {state : RoomSnapshot}
    (h : ¬ (state.state = .connected ∨ state.state = .reconnecting ∨ state.state = .diagnosing)) :
    (ServiceCall.pollAndEmit refresh).effect state = (state, .unit) := by
  cases refresh with
  | error e => rfl
  | ok refresh =>
    simp only [effect]
    rw [if_neg h]

end ServiceCall

end Terracotta
