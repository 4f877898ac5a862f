import Terracotta.RoomSteps
/-!
# The state changes a room call announces

A call announces its state change where it moves the state field and publishes one `StateChanged` with the snapshot it
leaves stored.  The failure exits of the calls move the state and publish nothing, and `poll_and_emit` takes the event's
snapshot before it stores the refresh's address and members.
-/
namespace Terracotta

def stateChanges (events : List RoomEvent) : List RoomSnapshot :=
  events.filterMap (fun
    | .stateChanged snapshot => some snapshot
    | _ => none)

/-- What a call published. -/
def RoomService.publishedBy (svc : RoomService) (call : RoomCall) : List RoomEvent :=
  (svc.step call).published.drop svc.published.length

/-- **The state change from `svc` to `svc'` is announced** by the events published between them: once and with the
stored snapshot where the state field moves, not at all where it does not. -/
def RoomService.Announced (svc svc' : RoomService) (events : List RoomEvent) : Prop :=
  (svc'.state.state ≠ svc.state.state → stateChanges events = [svc'.state]) ∧
    (svc'.state.state = svc.state.state → stateChanges events = [])

instance (svc svc' : RoomService) (events : List RoomEvent) : Decidable (svc.Announced svc' events) :=
  inferInstanceAs (Decidable (_ ∧ _))

/-- A refresh that turns the state over brings no address and no members but those stored. -/
def RoomSnapshot.FlipsAlone (s : RoomSnapshot) (refresh : BackendRefresh) : Prop :=
  (∃ network ∈ refresh.network, s.Flips network) →
    (∀ address ∈ refresh.localAddress, s.localAddress = some address) ∧ ∀ members ∈ refresh.members, s.members = members

/-- **The condition on a call**: an operation that gets past its guard succeeds, and a poll that turns the state over
brings nothing else that is new. -/
def RoomService.TellsState (svc : RoomService) : RoomCall → Prop
  | .create request answer => svc.state.state = .idle → request.Valid →
    ∃ room, answer.bind (fun room => validateBackendRoom room false) = .ok room
  | .join request answer => svc.state.state = .idle → request.Valid →
    ∃ room, answer.bind (fun room => validateBackendRoom room true) = .ok room
  | .diagnose refresh answer => svc.state.Open → ∃ network, reportedNetwork (refresh.toOption.getD {}) answer = .ok network
  | .leave answer => svc.state.state ≠ .idle → svc.state.state ≠ .leaving → svc.state.state ≠ .faulted → answer = .ok ()
  | call => ∀ refresh ∈ svc.refreshOf call, svc.state.FlipsAlone refresh

/-! ## The events of each branch -/

@[simp] theorem stateChanges_append (as bs : List RoomEvent) :
    stateChanges (as ++ bs) = stateChanges as ++ stateChanges bs := List.filterMap_append

theorem stateChanges_eq_nil {events : List RoomEvent} (h : ∀ e ∈ events, ∀ s, e ≠ .stateChanged s) :
    stateChanges events = [] := by
  refine List.filterMap_eq_nil_iff.2 fun e he => ?_
  cases e with
  | stateChanged s => exact absurd rfl (h _ he s)
  | _ => rfl

theorem mem_memberEvents {known : MemberTable} {members : List RoomMember} {e : RoomEvent}
    (h : e ∈ memberEvents known members) :
    (∃ member ∈ members, known.lookup member.id = none ∧ e = .peerJoined member) ∨
      (∃ member ∈ members, ∃ previous, known.lookup member.id = some previous ∧ previous.eq member = false ∧
        e = .peerUpdated member) ∨
      ∃ id ∈ known.map Prod.fst, id ∉ members.map (·.id) ∧ e = .peerLeft id := by
  unfold memberEvents at h
  rcases List.mem_append.1 h with h | h
  · obtain ⟨member, hmember, he⟩ := List.mem_filterMap.1 h
    split at he
    · rename_i hnone
      exact Or.inl ⟨member, hmember, hnone, (Option.some.inj he).symm⟩
    · rename_i previous hprevious
      split at he
      · cases he
      · rename_i hne
        exact Or.inr (Or.inl ⟨member, hmember, previous, hprevious, by simpa using hne, (Option.some.inj he).symm⟩)
  · obtain ⟨id, hid, rfl⟩ := List.mem_map.1 h
    rw [List.mem_filter] at hid
    exact Or.inr (Or.inr ⟨id, hid.1, by simpa using hid.2, rfl⟩)

@[simp] theorem stateChanges_peerEvents (svc : RoomService) (refresh : BackendRefresh) :
    stateChanges (svc.peerEvents refresh) = [] := by
  unfold RoomService.peerEvents
  cases refresh.members with
  | none => rfl
  | some members =>
    refine stateChanges_eq_nil fun e he s hs => ?_
    obtain ⟨_, _, _, h⟩ | ⟨_, _, _, _, _, h⟩ | ⟨_, _, _, h⟩ := mem_memberEvents he <;> rw [h] at hs <;> cases hs

@[simp] theorem stateChanges_networkUpdated (b : Bool) (network : NetworkStatus) :
    stateChanges (if b then [] else [.networkUpdated network]) = [] := by
  cases b <;> rfl

/-- A branch that stores the service back publishes nothing. -/
theorem announced_self (svc : RoomService) : svc.Announced svc (svc.published.drop svc.published.length) := by
  rw [List.drop_length]
  exact ⟨fun h => absurd rfl h, fun _ => rfl⟩

/-- **A fault is stored without a word**, so it is announced only where the room was faulted already. -/
theorem announced_faulted_iff (svc : RoomService) (role : RoomRole) (gameSessionId : Option String) (error : RoomError) :
    svc.Announced { svc with state := .faulted role gameSessionId error } (svc.published.drop svc.published.length) ↔
      svc.state.state = .faulted := by
  rw [List.drop_length]
  have hstate : (RoomSnapshot.faulted role gameSessionId error).state = .faulted := rfl
  constructor
  · intro h
    by_contra hne
    have := h.1 (fun heq => hne (heq.symm.trans hstate))
    cases this
  · exact fun h => ⟨fun hne => absurd (hstate.trans h.symm) hne, fun _ => rfl⟩

/-! ## The calls -/

theorem opening_announced {svc svc' : RoomService} {valid : Prop} {answered : Except RoomError BackendRoom}
    (h : svc.Opening svc' valid answered) : svc.Announced svc' (svc'.published.drop svc.published.length) ↔
      (svc.state.state = .idle → valid → ∃ room, answered = .ok room) := by
  cases h with
  | refused hno heq =>
    subst heq
    exact ⟨fun _ hidle hvalid => absurd ⟨hidle, hvalid⟩ hno, fun _ => announced_self svc'⟩
  | opened hidle hvalid role gameSessionId room hroom heq =>
    subst heq
    refine ⟨fun _ _ _ => ⟨room, hroom⟩, fun _ => ⟨fun _ => ?_, fun hsame => ?_⟩⟩
    · simp [RoomService.publish, stateChanges]
    · rw [hidle] at hsame
      cases hsame
  | failed hidle hvalid role gameSessionId error herror heq =>
    subst heq
    rw [announced_faulted_iff, hidle]
    refine ⟨fun h => (by cases h), fun h => ?_⟩
    obtain ⟨room, hroom⟩ := h rfl hvalid
    rw [herror] at hroom
    cases hroom

theorem diagnosis_announced {svc svc' : RoomService} {refresh : BackendRefresh} {answer : Except RoomError NetworkStatus}
    (h : svc.Diagnosis svc' refresh answer) : svc.Announced svc' (svc'.published.drop svc.published.length) ↔
      (svc.state.Open → ∃ network, reportedNetwork refresh answer = .ok network) := by
  cases h with
  | refused hno heq =>
    subst heq
    exact ⟨fun _ hopen => absurd hopen hno, fun _ => announced_self svc'⟩
  | reported hopen network hnetwork heq =>
    subst heq
    refine ⟨fun _ _ => ⟨network, hnetwork⟩, fun _ => ⟨fun hne => absurd rfl hne, fun _ => ?_⟩⟩
    simp [stateChanges]
  | failed hopen error herror heq =>
    subst heq
    rw [announced_faulted_iff]
    constructor
    · intro hfaulted
      rcases hopen with h | h <;> rw [hfaulted] at h <;> cases h
    · intro h
      obtain ⟨network, hnetwork⟩ := h hopen
      rw [herror] at hnetwork
      cases hnetwork

theorem leave_announced {svc svc' : RoomService} {answer : Except RoomError Unit} (h : svc.Leave svc' answer) :
    svc.Announced svc' (svc'.published.drop svc.published.length) ↔
      (svc.state.state ≠ .idle → svc.state.state ≠ .leaving → svc.state.state ≠ .faulted → answer = .ok ()) := by
  cases h with
  | refused hno heq =>
    subst heq
    exact ⟨fun _ hidle hleaving => absurd hno (not_or.2 ⟨hidle, hleaving⟩), fun _ => announced_self svc'⟩
  | left hyes hanswer heq =>
    subst heq
    refine ⟨fun _ _ _ _ => hanswer, fun _ => ⟨fun _ => ?_, fun hsame => absurd (Or.inl hsame.symm) hyes⟩⟩
    simp [RoomService.publish, stateChanges]
  | failed hyes error hanswer heq =>
    subst heq
    rw [announced_faulted_iff]
    constructor
    · exact fun hfaulted _ _ hne => absurd hfaulted hne
    · intro h
      by_contra hne
      have := h (fun hi => hyes (Or.inl hi)) (fun hl => hyes (Or.inr hl)) hne
      rw [hanswer] at this
      cases this

/-- **What is stored after the event is what the event says** exactly where the refresh has no other address or
members. -/
theorem refreshed_eq_iff (s t : RoomSnapshot) (refresh : BackendRefresh) (haddress : t.localAddress = s.localAddress)
    (hmembers : t.members = s.members) : t.refreshed refresh = t ↔
      (∀ address ∈ refresh.localAddress, s.localAddress = some address) ∧ ∀ members ∈ refresh.members, s.members = members := by
  have heq : t.refreshed refresh = t ↔
      refresh.localAddress.or t.localAddress = t.localAddress ∧ refresh.members.getD t.members = t.members := by
    cases t
    simp [RoomSnapshot.refreshed]
  rw [heq, haddress, hmembers]
  refine and_congr ?_ ?_
  · cases refresh.localAddress <;> simp [eq_comm]
  · cases refresh.members <;> simp [eq_comm]

theorem RoomSnapshot.Flips.flip_ne {s : RoomSnapshot} {network : NetworkStatus} (h : s.Flips network) :
    s.state.flip ≠ s.state := by
  rcases h with ⟨-, h⟩ | ⟨-, h⟩ <;> rw [h] <;> decide

theorem poll_announced {svc svc' : RoomService} {refresh : BackendRefresh} (h : svc.Poll svc' refresh) :
    svc.Announced svc' (svc'.published.drop svc.published.length) ↔ svc.state.FlipsAlone refresh := by
  cases h with
  | noNetwork hnone hstate hevents =>
    have hsame : svc'.state.state = svc.state.state := by rw [hstate]; rfl
    rw [hevents, List.drop_left]
    refine ⟨fun _ ⟨network, hnetwork, _⟩ => ?_, fun _ => ⟨fun hne => absurd hsame hne, fun _ => by simp⟩⟩
    rw [hnone] at hnetwork
    cases hnetwork
  | network network hnetwork s events hs hstate hevents =>
    rw [hevents, List.drop_left]
    cases hs with
    | flips hflips heq hes =>
      have hne : svc'.state.state ≠ svc.state.state := by
        rw [hstate, heq]
        exact hflips.flip_ne
      have hchanges : stateChanges (svc.peerEvents refresh ++ events) = [s] := by
        rw [hes]
        simp only [stateChanges_append, stateChanges_peerEvents, stateChanges_networkUpdated, List.nil_append]
        rfl
      have hstored : svc'.state = s ↔ _ := hstate ▸ refreshed_eq_iff svc.state s refresh (by rw [heq]) (by rw [heq])
      constructor
      · intro h _
        have := h.1 hne
        rw [hchanges] at this
        exact hstored.1 (List.cons.inj this).1.symm
      · intro h
        refine ⟨fun _ => ?_, fun hsame => absurd hsame hne⟩
        rw [hchanges, hstored.2 (h ⟨network, hnetwork, hflips⟩)]
    | keeps hkeeps heq hes =>
      have hsame : svc'.state.state = svc.state.state := by
        rw [hstate, heq]
        rfl
      refine ⟨fun _ ⟨other, hother, hflips⟩ => ?_, fun _ => ⟨fun hne => absurd hsame hne, fun _ => by simp [hes]⟩⟩
      rw [hnetwork] at hother
      cases hother
      exact absurd hflips hkeeps

theorem RoomSnapshot.Flips.polled {s : RoomSnapshot} {network : NetworkStatus} (h : s.Flips network) : s.Polled := by
  rcases h with ⟨-, h⟩ | ⟨-, h⟩
  · exact Or.inl h
  · exact Or.inr (Or.inl h)

theorem polling_announced {svc svc' : RoomService} {refresh? : Option BackendRefresh} (h : svc.Polling svc' refresh?) :
    svc.Announced svc' (svc'.published.drop svc.published.length) ↔
      ∀ refresh ∈ refresh?, svc.state.FlipsAlone refresh := by
  cases h with
  | refused hno heq =>
    subst heq
    refine ⟨fun _ refresh hrefresh ⟨network, _, hflips⟩ => ?_, fun _ => announced_self svc'⟩
    exact absurd hflips.polled (hno refresh hrefresh)
  | stored refresh hrefresh hpolled hpoll hknown =>
    rw [poll_announced hpoll, hrefresh]
    simp

/-- **A call announces its state change exactly under the condition**, in every state of the service and whatever the
backend answers. -/
theorem call_announces_its_change_iff (svc : RoomService) (call : RoomCall) :
    svc.Announced (svc.step call) (svc.publishedBy call) ↔ svc.TellsState call := by
  cases call with
  | create request answer => exact opening_announced (create_opening svc request answer)
  | join request answer => exact opening_announced (join_opening svc request answer)
  | setLanAddress request answer refresh => exact polling_announced (setLanAddress_polling svc request answer refresh)
  | diagnose refresh answer => exact diagnosis_announced (diagnose_diagnosis svc refresh answer)
  | leave answer => exact leave_announced (leave_leave svc answer)
  | status refresh => exact polling_announced (pollAndEmit_polling svc refresh)
  | pollAndEmit refresh => exact polling_announced (pollAndEmit_polling svc refresh)

/-- **A poll announces members that are not the stored ones**: the network of an open room is lost in the refresh that
brings a new member, and the event's snapshot is still without it.  And **a create that fails announces nothing**. -/
theorem late_members_are_not_announced :
    let guest : RoomMember := ⟨"guest", "Guest", .direct, some 5, some F64.zero⟩
    let poll : RoomCall := .pollAndEmit (.ok { network := some unhealthyNetwork, members := some [guest] })
    let refused : RoomCall := .create sampleCreate (.error ⟨"network.easytier-missing", "EasyTier is not installed.", false⟩)
    (openRoom.state.state = .connected ∧ (openRoom.step poll).state.state = .reconnecting ∧
      (openRoom.step poll).state.members = [guest] ∧
      (stateChanges (openRoom.publishedBy poll)).map (·.members) = [[]]) ∧
      ((RoomService.new.step refused).state.state = .faulted ∧ stateChanges (RoomService.new.publishedBy refused) = []) ∧
      ¬ openRoom.Announced (openRoom.step poll) (openRoom.publishedBy poll) ∧
      ¬ RoomService.new.Announced (RoomService.new.step refused) (RoomService.new.publishedBy refused) := by
  decide

end Terracotta
