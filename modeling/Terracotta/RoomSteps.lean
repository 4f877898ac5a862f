import Terracotta.RoomInvariant
import Terracotta.Wire
/-!
# What one room call does

One summary for each kind of call: which branch it takes, what that branch leaves stored and what it publishes.  `create`
and `join` share theirs, and `status` and `set_lan_address` do what their `poll_and_emit` does.
-/
namespace Terracotta

/-! ## Valid requests -/

def CreateRoomRequest.Valid (request : CreateRoomRequest) : Prop :=
  (∃ id, validateSessionId request.gameSessionId = .ok id) ∧ ∃ address, validateLoopbackAddress request.lanAddress = .ok address

def JoinRoomRequest.Valid (request : JoinRoomRequest) : Prop :=
  (∃ code, normalizeRoomCode request.roomCode = .ok code) ∧
    ∃ id, validateOption validateSessionId request.gameSessionId = .ok id

/-- The room is open: what `poll_and_emit` asks of the state, `Diagnosing` apart, and what `diagnose` asks. -/
def RoomSnapshot.Open (s : RoomSnapshot) : Prop := s.state = .connected ∨ s.state = .reconnecting

instance (s : RoomSnapshot) : Decidable s.Open := inferInstanceAs (Decidable (_ ∨ _))

/-! ## `create` and `join` -/

/-- The snapshot of a room that a backend opened. -/
def RoomSnapshot.ofRoom (role : RoomRole) (gameSessionId : Option String) (room : BackendRoom) : RoomSnapshot :=
  { state := .connected
    role
    roomCode := some room.roomCode
    localAddress := room.localAddress
    gameSessionId
    network := some room.network
    members := room.members
    errorCode := none
    errorMessage := none }

/-- **What `create` and `join` do**, given whether the request is valid and the backend's answer as it was checked. -/
inductive RoomService.Opening (svc svc' : RoomService) (valid : Prop) (answered : Except RoomError BackendRoom) : Prop
  | refused (hno : ¬ (svc.state.state = .idle ∧ valid)) (heq : svc' = svc)
  | opened (hidle : svc.state.state = .idle) (hvalid : valid) (role : RoomRole) (gameSessionId : Option String)
      (room : BackendRoom) (hroom : answered = .ok room)
      (heq : svc' = RoomService.publish
        { svc with state := .ofRoom role gameSessionId room, knownMembers := .of room.members }
        (.stateChanged (.ofRoom role gameSessionId room)))
  | failed (hidle : svc.state.state = .idle) (hvalid : valid) (role : RoomRole) (gameSessionId : Option String)
      (error : RoomError) (herror : answered = .error error)
      (heq : svc' = { svc with state := .faulted role gameSessionId error })

theorem openFinish_opening (svc : RoomService) {pending : RoomSnapshot} {valid : Prop} (role : RoomRole)
    (gameSessionId : Option String) (require : Bool) (answer : Except RoomError BackendRoom)
    (hidle : svc.state.state = .idle) (hvalid : valid) :
    svc.Opening (RoomService.openFinish { svc with state := pending } role gameSessionId require answer).1 valid
      (answer.bind (fun room => validateBackendRoom room require)) := by
  unfold RoomService.openFinish
  split
  · rename_i error herror
    exact .failed hidle hvalid role gameSessionId error herror rfl
  · rename_i room hroom
    exact .opened hidle hvalid role gameSessionId room hroom rfl

theorem create_opening (svc : RoomService) (request : CreateRoomRequest) (answer : Except RoomError BackendRoom) :
    svc.Opening (svc.create request answer).1 request.Valid
      (answer.bind (fun room => validateBackendRoom room false)) := by
  unfold RoomService.create
  split
  · rename_i error herror
    refine .refused (fun ⟨hidle, ⟨id, hid⟩, address, haddress⟩ => ?_) rfl
    simp [RoomService.createBegin, hid, haddress, hidle, bind, Except.bind, pure, Except.pure] at herror
  · rename_i svc' request' hbegin
    obtain ⟨hidle, rfl, -⟩ := createBegin_ok hbegin
    refine openFinish_opening svc .host _ false answer hidle ⟨?_, ?_⟩
    · unfold RoomService.createBegin at hbegin
      cases hid : validateSessionId request.gameSessionId with
      | error e => rw [hid] at hbegin; cases hbegin
      | ok id => exact ⟨id, rfl⟩
    · unfold RoomService.createBegin at hbegin
      cases hid : validateSessionId request.gameSessionId with
      | error e => rw [hid] at hbegin; cases hbegin
      | ok id =>
        cases haddress : validateLoopbackAddress request.lanAddress with
        | error e => rw [hid, haddress] at hbegin; cases hbegin
        | ok address => exact ⟨address, rfl⟩

theorem join_opening (svc : RoomService) (request : JoinRoomRequest) (answer : Except RoomError BackendRoom) :
    svc.Opening (svc.join request answer).1 request.Valid
      (answer.bind (fun room => validateBackendRoom room true)) := by
  unfold RoomService.join
  split
  · rename_i error herror
    refine .refused (fun ⟨hidle, ⟨code, hcode⟩, id, hid⟩ => ?_) rfl
    simp [RoomService.joinBegin, hcode, hid, hidle, bind, Except.bind, pure, Except.pure] at herror
  · rename_i svc' request' hbegin
    obtain ⟨hidle, rfl, -⟩ := joinBegin_ok hbegin
    refine openFinish_opening svc .member _ true answer hidle ⟨?_, ?_⟩
    · unfold RoomService.joinBegin at hbegin
      cases hcode : normalizeRoomCode request.roomCode with
      | error e => rw [hcode] at hbegin; cases hbegin
      | ok code => exact ⟨code, rfl⟩
    · unfold RoomService.joinBegin at hbegin
      cases hcode : normalizeRoomCode request.roomCode with
      | error e => rw [hcode] at hbegin; cases hbegin
      | ok code =>
        cases hid : validateOption validateSessionId request.gameSessionId with
        | error e => rw [hcode, hid] at hbegin; cases hbegin
        | ok id => exact ⟨id, rfl⟩

/-! ## `diagnose` and `leave` -/

/-- The network a diagnosis reports: the refresh's, else the backend's own. -/
def reportedNetwork (refresh : BackendRefresh) (answer : Except RoomError NetworkStatus) : Except RoomError NetworkStatus :=
  match refresh.network with
  | some network => .ok network
  | none => answer

/-- What a diagnosis brings beside its network: nothing where the refresh has no network. -/
def diagnosedAddress (refresh : BackendRefresh) : Option String :=
  if refresh.network.isSome then refresh.localAddress else none

def diagnosedMembers (refresh : BackendRefresh) : Option (List RoomMember) :=
  if refresh.network.isSome then refresh.members else none

/-- **What `diagnose` does**: it comes back to the state it left, with the reported network, or stores a fault. -/
inductive RoomService.Diagnosis (svc svc' : RoomService) (refresh : BackendRefresh)
    (answer : Except RoomError NetworkStatus) : Prop
  | refused (hno : ¬ svc.state.Open) (heq : svc' = svc)
  | reported (hopen : svc.state.Open) (network : NetworkStatus) (hnetwork : reportedNetwork refresh answer = .ok network)
      (heq : svc' = { svc with state := { svc.state with
        network := some network
        members := (diagnosedMembers refresh).getD svc.state.members
        localAddress := (diagnosedAddress refresh).or svc.state.localAddress } })
  | failed (hopen : svc.state.Open) (error : RoomError) (herror : reportedNetwork refresh answer = .error error)
      (heq : svc' = { svc with state := .faulted svc.state.role svc.state.gameSessionId error })

theorem diagnose_diagnosis (svc : RoomService) (refresh : Except RoomError BackendRefresh)
    (answer : Except RoomError NetworkStatus) :
    svc.Diagnosis (svc.diagnose refresh answer).1 (refresh.toOption.getD {}) answer := by
  unfold RoomService.diagnose RoomService.diagnoseBegin
  by_cases hopen : svc.state.Open
  · have hstate : ¬ (svc.state.state ≠ .connected ∧ svc.state.state ≠ .reconnecting) := by
      rintro ⟨h1, h2⟩
      exact hopen.elim h1 h2
    rw [if_neg hstate]
    simp only
    unfold RoomService.diagnoseFinish
    generalize refresh.toOption.getD {} = refresh
    cases hnetwork : refresh.network with
    | some network =>
      refine .reported hopen network (by simp [reportedNetwork, hnetwork]) ?_
      simp [diagnosedMembers, diagnosedAddress, hnetwork]
    | none =>
      cases answer with
      | ok network =>
        refine .reported hopen network (by simp [reportedNetwork, hnetwork]) ?_
        simp [diagnosedMembers, diagnosedAddress, hnetwork]
      | error error => exact .failed hopen error (by simp [reportedNetwork, hnetwork]) rfl
  · have hstate : svc.state.state ≠ .connected ∧ svc.state.state ≠ .reconnecting :=
      ⟨fun h => hopen (Or.inl h), fun h => hopen (Or.inr h)⟩
    rw [if_pos hstate]
    exact .refused hopen rfl

/-- **What `leave` does.** -/
inductive RoomService.Leave (svc svc' : RoomService) (answer : Except RoomError Unit) : Prop
  | refused (hno : svc.state.state = .idle ∨ svc.state.state = .leaving) (heq : svc' = svc)
  | left (hyes : ¬ (svc.state.state = .idle ∨ svc.state.state = .leaving)) (hanswer : answer = .ok ())
      (heq : svc' = RoomService.publish { svc with state := .idle, knownMembers := [] } (.stateChanged .idle))
  | failed (hyes : ¬ (svc.state.state = .idle ∨ svc.state.state = .leaving)) (error : RoomError)
      (hanswer : answer = .error error)
      (heq : svc' = { svc with state := .faulted svc.state.role svc.state.gameSessionId error })

theorem leave_leave (svc : RoomService) (answer : Except RoomError Unit) : svc.Leave (svc.leave answer).1 answer := by
  unfold RoomService.leave
  split
  · rename_i hidle
    exact .refused (Or.inl hidle) rfl
  · rename_i hidle
    split
    · rename_i hleaving
      exact .refused (Or.inr hleaving) rfl
    · rename_i hleaving
      have hyes : ¬ (svc.state.state = .idle ∨ svc.state.state = .leaving) := not_or.2 ⟨hidle, hleaving⟩
      cases answer with
      | ok _ => exact .left hyes rfl rfl
      | error error => exact .failed hyes error rfl rfl

/-! ## `poll_and_emit` -/

/-- The states in which `poll_and_emit` stores its refresh. -/
def RoomSnapshot.Polled (s : RoomSnapshot) : Prop :=
  s.state = .connected ∨ s.state = .reconnecting ∨ s.state = .diagnosing

/-- The refresh a call's `poll_and_emit` stores, if it gets that far. -/
def RoomService.refreshOf (svc : RoomService) : RoomCall → Option BackendRefresh
  | .pollAndEmit refresh | .status refresh => refresh.toOption
  | .setLanAddress request answer refresh =>
    match validateLoopbackAddress request.lanAddress with
    | .error _ => none
    | .ok _ => if svc.state.state ≠ .connected ∨ svc.state.role ≠ .host then none
      else answer.toOption.bind (fun _ => refresh.toOption)
  | _ => none

/-- Does this network turn the stored state over? -/
def RoomSnapshot.Flips (s : RoomSnapshot) (network : NetworkStatus) : Prop :=
  network.isHealthy = false ∧ s.state = .connected ∨ network.isHealthy = true ∧ s.state = .reconnecting

def RoomState.flip : RoomState → RoomState
  | .connected => .reconnecting
  | .reconnecting => .connected
  | s => s

/-- **What `applyNetwork` does**: the network is stored, and a state it turns over is announced as it stands. -/
inductive AppliesNetwork (s : RoomSnapshot) (network : NetworkStatus) (s' : RoomSnapshot) (events : List RoomEvent) : Prop
  | flips (hflips : s.Flips network) (heq : s' = { s with network := some network, state := s.state.flip })
      (hevents : events = (if s.network.any (·.eq network) then [] else [.networkUpdated network]) ++ [.stateChanged s'])
  | keeps (hkeeps : ¬ s.Flips network) (heq : s' = { s with network := some network })
      (hevents : events = if s.network.any (·.eq network) then [] else [.networkUpdated network])

theorem applyNetwork_applies (s : RoomSnapshot) (network : NetworkStatus) :
    AppliesNetwork s network (applyNetwork s network).1 (applyNetwork s network).2 := by
  unfold applyNetwork
  simp only
  split
  · rename_i h
    simp only [Bool.and_eq_true, Bool.not_eq_true', beq_iff_eq] at h
    exact .flips (Or.inl h) (by simp [h.2, RoomState.flip]) rfl
  · rename_i h
    split
    · rename_i h'
      simp only [Bool.and_eq_true, beq_iff_eq] at h'
      exact .flips (Or.inr h') (by simp [h'.2, RoomState.flip]) rfl
    · rename_i h'
      refine .keeps ?_ rfl rfl
      rintro (hf | hf)
      · exact h (by simp [hf.1, hf.2])
      · exact h' (by simp [hf.1, hf.2])

/-- What `poll_and_emit` stores beside network and state. -/
def RoomSnapshot.refreshed (s : RoomSnapshot) (refresh : BackendRefresh) : RoomSnapshot :=
  { s with
    localAddress := refresh.localAddress.or s.localAddress
    members := refresh.members.getD s.members }

/-- The peer events of a refresh, if it has members. -/
def RoomService.peerEvents (svc : RoomService) (refresh : BackendRefresh) : List RoomEvent :=
  refresh.members.elim [] (memberEvents svc.knownMembers)

/-- **What `poll_and_emit` does** with a refresh it stores. -/
inductive RoomService.Poll (svc svc' : RoomService) (refresh : BackendRefresh) : Prop
  | noNetwork (hnone : refresh.network = none) (hstate : svc'.state = svc.state.refreshed refresh)
      (hevents : svc'.published = svc.published ++ svc.peerEvents refresh)
  | network (network : NetworkStatus) (hnetwork : refresh.network = some network) (s : RoomSnapshot)
      (events : List RoomEvent) (hs : AppliesNetwork svc.state network s events)
      (hstate : svc'.state = s.refreshed refresh)
      (hevents : svc'.published = svc.published ++ (svc.peerEvents refresh ++ events))

theorem pollAndEmit_poll {svc : RoomService} (refresh : BackendRefresh) (h : svc.state.Polled) :
    svc.Poll (svc.pollAndEmit (.ok refresh)) refresh ∧
      (svc.pollAndEmit (.ok refresh)).knownMembers = refresh.members.elim svc.knownMembers MemberTable.of := by
  have hmembers : svc.pollAndEmit (.ok refresh) =
      { state := (pollState svc.state refresh).1
        knownMembers := refresh.members.elim svc.knownMembers MemberTable.of
        published := svc.published ++ (svc.peerEvents refresh ++ (pollState svc.state refresh).2) } := by
    unfold RoomService.pollAndEmit RoomService.peerEvents
    unfold RoomSnapshot.Polled at h
    simp only
    rw [if_pos h]
    cases refresh.members with
    | none => rfl
    | some members => simp
  rw [hmembers]
  refine ⟨?_, rfl⟩
  cases hnetwork : refresh.network with
  | none =>
    refine .noNetwork hnetwork ?_ ?_
    · simp [pollState, hnetwork, RoomSnapshot.refreshed]
    · simp [pollState, hnetwork]
  | some network =>
    refine .network network hnetwork _ _ (applyNetwork_applies svc.state network) ?_ ?_
    · simp [pollState, hnetwork, RoomSnapshot.refreshed]
    · simp [pollState, hnetwork]

/-- **What `poll_and_emit`, `status` and `set_lan_address` do**, given the refresh they come by. -/
inductive RoomService.Polling (svc svc' : RoomService) (refresh? : Option BackendRefresh) : Prop
  | refused (hno : ∀ refresh ∈ refresh?, ¬ svc.state.Polled) (heq : svc' = svc)
  | stored (refresh : BackendRefresh) (hrefresh : refresh? = some refresh) (hpolled : svc.state.Polled)
      (hpoll : svc.Poll svc' refresh) (hknown : svc'.knownMembers = refresh.members.elim svc.knownMembers MemberTable.of)

theorem pollAndEmit_polling (svc : RoomService) (refresh : Except RoomError BackendRefresh) :
    svc.Polling (svc.pollAndEmit refresh) refresh.toOption := by
  cases refresh with
  | error error => exact .refused (fun r hr => by cases hr) rfl
  | ok refresh =>
    by_cases hpolled : svc.state.Polled
    · obtain ⟨hpoll, hknown⟩ := pollAndEmit_poll refresh hpolled
      exact .stored refresh rfl hpolled hpoll hknown
    · exact .refused (fun _ _ => hpolled) (if_neg hpolled)

theorem setLanAddress_polling (svc : RoomService) (request : SetLanAddressRequest) (answer : Except RoomError Unit)
    (refresh : Except RoomError BackendRefresh) :
    svc.Polling (svc.setLanAddress request answer refresh).1 (svc.refreshOf (.setLanAddress request answer refresh)) := by
  unfold RoomService.setLanAddress RoomService.refreshOf
  split
  · rename_i error herror
    simp only [herror]
    exact .refused (fun r hr => by cases hr) rfl
  · rename_i address haddress
    simp only [haddress]
    split
    · exact .refused (fun r hr => by cases hr) rfl
    · cases answer with
      | error error => exact .refused (fun r hr => by cases hr) rfl
      | ok _ => exact pollAndEmit_polling svc refresh

theorem step_polling {svc : RoomService} {call : RoomCall} {refresh : BackendRefresh}
    (h : svc.refreshOf call = some refresh) : svc.Polling (svc.step call) (some refresh) := by
  rw [← h]
  cases call with
  | create request answer => cases h
  | join request answer => cases h
  | diagnose answer network => cases h
  | leave answer => cases h
  | setLanAddress request answer refresh => exact setLanAddress_polling svc request answer refresh
  | status refresh => exact pollAndEmit_polling svc refresh
  | pollAndEmit refresh => exact pollAndEmit_polling svc refresh

/-- A call as a step: every call returns. -/
def RoomService.step? (svc : RoomService) (call : RoomCall) : Option RoomService := some (svc.step call)

/-! ## A room to run calls on -/

def sampleCreate : CreateRoomRequest := ⟨"session-1", "127.0.0.1:25565", true, true⟩

def sampleRoom : BackendRoom := ⟨"AB12-CD34-EF56", none, healthyNetwork, []⟩

def openRoom : RoomService := RoomService.new.runCalls [.create sampleCreate (.ok sampleRoom)]

def unhealthyNetwork : NetworkStatus := { healthyNetwork with isHealthy := false }

end Terracotta
