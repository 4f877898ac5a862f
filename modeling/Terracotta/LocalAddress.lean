import Terracotta.Announced
/-!
# The local address of every snapshot

The address of a snapshot comes from the backend.  `create` and `join` check it and store it as they print it; `poll_and_emit`
and `diagnose` store what a refresh brings, as it is.
-/
namespace Terracotta

open Net (SocketAddr)

/-- An endpoint on a loopback address, with a port. -/
def LoopbackEndpoint (text : String) : Prop :=
  ∃ address, SocketAddr.parse text = some address ∧ address.ip.isLoopback = true ∧ address.port ≠ 0

def RoomSnapshot.OnLoopback (s : RoomSnapshot) : Prop := ∀ address ∈ s.localAddress, LoopbackEndpoint address

/-- The snapshot a call returns, where it returns one. -/
def RoomService.returned (svc : RoomService) : RoomCall → Option RoomSnapshot
  | .create request answer => (svc.create request answer).2.toOption
  | .join request answer => (svc.join request answer).2.toOption
  | .setLanAddress request answer refresh => (svc.setLanAddress request answer refresh).2.toOption
  | .leave answer => (svc.leave answer).2.toOption
  | .status refresh => some (svc.status refresh).2
  | .diagnose .. | .pollAndEmit .. => none

/-- Every snapshot that calls run one at a time store, return or publish. -/
def RoomService.shown : RoomService → List RoomCall → List RoomSnapshot
  | svc, [] => [svc.state]
  | svc, call :: calls =>
    svc.state :: ((svc.returned call).toList ++ stateChanges (svc.publishedBy call) ++ (svc.step call).shown calls)

/-- **The condition on a call**: the address a poll or a diagnosis stores is a loopback endpoint. -/
def RoomService.KeepsLoopback (svc : RoomService) : RoomCall → Prop
  | .create .. | .join .. | .leave .. => True
  | .diagnose refresh _ => svc.state.Open →
    ∀ address ∈ diagnosedAddress (refresh.toOption.getD {}), LoopbackEndpoint address
  | call => ∀ refresh ∈ svc.refreshOf call, svc.state.Polled → ∀ address ∈ refresh.localAddress, LoopbackEndpoint address

/-! ## What is stored -/

theorem validateLoopbackAddress_endpoint {value : String} {address : SocketAddr}
    (h : validateLoopbackAddress value = .ok address) : LoopbackEndpoint address.toString := by
  unfold validateLoopbackAddress at h
  split at h
  · cases h
  · rename_i hparsed
    split at h
    · cases h
    · rename_i hcheck
      cases h
      simp only [Bool.or_eq_true, Bool.not_eq_true', beq_iff_eq, not_or, Bool.not_eq_false] at hcheck
      exact ⟨address, Net.parse_toString_of_loopback hparsed hcheck.1, hcheck.1, hcheck.2⟩

theorem validateBackendRoom_endpoint {room checked : BackendRoom} {require : Bool}
    (h : validateBackendRoom room require = .ok checked) : ∀ text ∈ checked.localAddress, LoopbackEndpoint text := by
  unfold validateBackendRoom at h
  simp only [bind, Except.bind, pure, Except.pure] at h
  split at h
  · cases h
  · split at h
    · cases h
    · rename_i address haddress
      split at h
      · cases h
      · simp only [Except.ok.injEq] at h
        subst h
        have hall : ∀ parsed ∈ address, LoopbackEndpoint parsed.toString :=
          validateOption_ok (fun _ _ => validateLoopbackAddress_endpoint) haddress
        intro text htext
        obtain ⟨parsed, hparsed, htoString⟩ := Option.map_eq_some_iff.1 htext
        rw [← htoString]
        exact hall parsed hparsed

/-- A stored address stands or is replaced. -/
theorem onLoopback_or_iff {s t : RoomSnapshot} {replaced : Option String} (hs : s.OnLoopback)
    (ht : t.localAddress = replaced.or s.localAddress) :
    (∀ address ∈ replaced, LoopbackEndpoint address) ↔ t.OnLoopback := by
  unfold RoomSnapshot.OnLoopback at hs ⊢
  rw [ht]
  cases replaced with
  | none => simpa using hs
  | some address => simp

theorem opening_loopback {svc svc' : RoomService} {valid : Prop} {answer : Except RoomError BackendRoom} {require : Bool}
    (hs : svc.state.OnLoopback)
    (h : svc.Opening svc' valid (answer.bind (fun room => validateBackendRoom room require))) : svc'.state.OnLoopback := by
  cases h with
  | refused hno heq => exact heq ▸ hs
  | opened hidle hvalid role gameSessionId room hroom heq =>
    subst heq
    cases answer with
    | error error => cases hroom
    | ok answered => exact @validateBackendRoom_endpoint answered room require hroom
  | failed hidle hvalid role gameSessionId error herror heq =>
    subst heq
    exact fun _ h => by cases h

theorem diagnosis_loopback {svc svc' : RoomService} {refresh : BackendRefresh} {answer : Except RoomError NetworkStatus}
    (hs : svc.state.OnLoopback) (h : svc.Diagnosis svc' refresh answer) :
    (svc.state.Open → ∀ address ∈ diagnosedAddress refresh, LoopbackEndpoint address) ↔ svc'.state.OnLoopback := by
  cases h with
  | refused hno heq =>
    subst heq
    exact ⟨fun _ => hs, fun _ hopen => absurd hopen hno⟩
  | reported hopen network hnetwork heq =>
    subst heq
    rw [← onLoopback_or_iff hs rfl]
    exact ⟨fun h => h hopen, fun h _ => h⟩
  | failed hopen error herror heq =>
    subst heq
    refine ⟨fun _ _ h => (by cases h), fun _ _ address haddress => ?_⟩
    -- a refresh without a network brings no address
    unfold diagnosedAddress at haddress
    cases hnetwork : refresh.network with
    | none => simp [hnetwork] at haddress
    | some network => simp [reportedNetwork, hnetwork] at herror

theorem leave_loopback {svc svc' : RoomService} {answer : Except RoomError Unit} (hs : svc.state.OnLoopback)
    (h : svc.Leave svc' answer) : svc'.state.OnLoopback := by
  cases h with
  | refused hno heq => exact heq ▸ hs
  | left hyes hanswer heq => exact heq ▸ fun _ h => by cases h
  | failed hyes error hanswer heq => exact heq ▸ fun _ h => by cases h

theorem AppliesNetwork.localAddress {s s' : RoomSnapshot} {network : NetworkStatus} {events : List RoomEvent}
    (h : AppliesNetwork s network s' events) : s'.localAddress = s.localAddress := by
  cases h with
  | flips hflips heq hevents => rw [heq]
  | keeps hkeeps heq hevents => rw [heq]

theorem poll_localAddress {svc svc' : RoomService} {refresh : BackendRefresh} (h : svc.Poll svc' refresh) :
    svc'.state.localAddress = refresh.localAddress.or svc.state.localAddress := by
  cases h with
  | noNetwork hnone hstate hevents => rw [hstate]; rfl
  | network network hnetwork s events happlies hstate hevents =>
    rw [hstate, ← happlies.localAddress]
    rfl

theorem polling_loopback {svc svc' : RoomService} {refresh? : Option BackendRefresh} (hs : svc.state.OnLoopback)
    (h : svc.Polling svc' refresh?) :
    (∀ refresh ∈ refresh?, svc.state.Polled → ∀ address ∈ refresh.localAddress, LoopbackEndpoint address) ↔
      svc'.state.OnLoopback := by
  cases h with
  | refused hno heq =>
    subst heq
    exact ⟨fun _ => hs, fun _ refresh hrefresh hpolled => absurd hpolled (hno refresh hrefresh)⟩
  | stored refresh hrefresh hpolled hpoll hknown =>
    rw [← onLoopback_or_iff hs (poll_localAddress hpoll)]
    constructor
    · exact fun h => h refresh hrefresh hpolled
    · intro h refresh' hrefresh' _
      cases hrefresh.symm.trans hrefresh'
      exact h

/-- **One call keeps the stored address exactly under the condition.** -/
theorem step_loopback_iff (svc : RoomService) (call : RoomCall) (hs : svc.state.OnLoopback) :
    svc.KeepsLoopback call ↔ (svc.step call).state.OnLoopback := by
  cases call with
  | create request answer => exact iff_of_true trivial (opening_loopback hs (create_opening svc request answer))
  | join request answer => exact iff_of_true trivial (opening_loopback hs (join_opening svc request answer))
  | leave answer => exact iff_of_true trivial (leave_loopback hs (leave_leave svc answer))
  | diagnose refresh answer => exact diagnosis_loopback hs (diagnose_diagnosis svc refresh answer)
  | setLanAddress request answer refresh => exact polling_loopback hs (setLanAddress_polling svc request answer refresh)
  | status refresh => exact polling_loopback hs (pollAndEmit_polling svc refresh)
  | pollAndEmit refresh => exact polling_loopback hs (pollAndEmit_polling svc refresh)

/-! ## What is returned and published -/

theorem openFinish_returned {svc : RoomService} {role : RoomRole} {gameSessionId : Option String} {require : Bool}
    {answer : Except RoomError BackendRoom} {s : RoomSnapshot}
    (h : (svc.openFinish role gameSessionId require answer).2 = .ok s) :
    (svc.openFinish role gameSessionId require answer).1.state = s := by
  unfold RoomService.openFinish at h ⊢
  split at h
  · cases h
  · simp only [Except.ok.injEq] at h
    exact h

theorem toOption_eq_some {ε α : Type} {x : Except ε α} {a : α} (h : x.toOption = some a) : x = .ok a := by
  cases x with
  | error e => cases h
  | ok b => rw [Option.some.inj h]

theorem create_returned {svc : RoomService} {request : CreateRoomRequest} {answer : Except RoomError BackendRoom}
    {s : RoomSnapshot} (h : (svc.create request answer).2 = .ok s) : (svc.create request answer).1.state = s := by
  unfold RoomService.create at h ⊢
  split at h
  · cases h
  · exact openFinish_returned h

theorem join_returned {svc : RoomService} {request : JoinRoomRequest} {answer : Except RoomError BackendRoom}
    {s : RoomSnapshot} (h : (svc.join request answer).2 = .ok s) : (svc.join request answer).1.state = s := by
  unfold RoomService.join at h ⊢
  split at h
  · cases h
  · exact openFinish_returned h

theorem leave_returned {svc : RoomService} {answer : Except RoomError Unit} {s : RoomSnapshot}
    {r : RoomService × Except RoomError RoomSnapshot} (hr : svc.leave answer = r) (h : r.2 = .ok s) : r.1.state = s := by
  unfold RoomService.leave at hr
  split at hr
  · subst hr
    exact Except.ok.inj h
  · split at hr
    · subst hr
      cases h
    · split at hr
      · subst hr
        exact Except.ok.inj h
      · subst hr
        cases h

theorem setLanAddress_returned {svc : RoomService} {request : SetLanAddressRequest} {answer : Except RoomError Unit}
    {refresh : Except RoomError BackendRefresh} {s : RoomSnapshot} {r : RoomService × Except RoomError RoomSnapshot}
    (hr : svc.setLanAddress request answer refresh = r) (h : r.2 = .ok s) : r.1.state = s := by
  unfold RoomService.setLanAddress at hr
  split at hr
  · subst hr
    cases h
  · split at hr
    · subst hr
      cases h
    · split at hr
      · subst hr
        cases h
      · subst hr
        exact Except.ok.inj h

/-- **A call returns what it leaves stored.** -/
theorem returned_eq {svc : RoomService} {call : RoomCall} {s : RoomSnapshot} (h : svc.returned call = some s) :
    (svc.step call).state = s := by
  cases call with
  | create request answer => exact create_returned (toOption_eq_some h)
  | join request answer => exact join_returned (toOption_eq_some h)
  | setLanAddress request answer refresh => exact setLanAddress_returned rfl (toOption_eq_some h)
  | leave answer => exact leave_returned rfl (toOption_eq_some h)
  | status refresh => exact Option.some.inj h
  | diagnose refresh answer => cases h
  | pollAndEmit refresh => cases h

theorem opening_published {svc svc' : RoomService} {valid : Prop} {answered : Except RoomError BackendRoom}
    (h : svc.Opening svc' valid answered) :
    ∀ s ∈ stateChanges (svc'.published.drop svc.published.length), s = svc'.state := by
  cases h with
  | refused hno heq => subst heq; simp [stateChanges]
  | opened hidle hvalid role gameSessionId room hroom heq => subst heq; simp [RoomService.publish, stateChanges]
  | failed hidle hvalid role gameSessionId error herror heq => subst heq; simp [stateChanges]

theorem diagnosis_published {svc svc' : RoomService} {refresh : BackendRefresh} {answer : Except RoomError NetworkStatus}
    (h : svc.Diagnosis svc' refresh answer) : stateChanges (svc'.published.drop svc.published.length) = [] := by
  cases h with
  | refused hno heq => subst heq; simp [stateChanges]
  | reported hopen network hnetwork heq => subst heq; simp [stateChanges]
  | failed hopen error herror heq => subst heq; simp [stateChanges]

theorem leave_published {svc svc' : RoomService} {answer : Except RoomError Unit} (h : svc.Leave svc' answer) :
    ∀ s ∈ stateChanges (svc'.published.drop svc.published.length), s = svc'.state := by
  cases h with
  | refused hno heq => subst heq; simp [stateChanges]
  | left hyes hanswer heq => subst heq; simp [RoomService.publish, stateChanges]
  | failed hyes error hanswer heq => subst heq; simp [stateChanges]

/-- The snapshot a poll announces has the address that was stored before. -/
theorem polling_published {svc svc' : RoomService} {refresh? : Option BackendRefresh} (h : svc.Polling svc' refresh?) :
    ∀ s ∈ stateChanges (svc'.published.drop svc.published.length), s.localAddress = svc.state.localAddress := by
  cases h with
  | refused hno heq => subst heq; simp [stateChanges]
  | stored refresh hrefresh hpolled hpoll hknown =>
    cases hpoll with
    | noNetwork hnone hstate hevents =>
      rw [hevents, List.drop_left, stateChanges_peerEvents]
      simp
    | network network hnetwork s events happlies hstate hevents =>
      rw [hevents, List.drop_left, stateChanges_append, stateChanges_peerEvents, List.nil_append]
      have haddress := happlies.localAddress
      cases happlies with
      | flips hflips heq hes =>
        rw [hes, stateChanges_append, stateChanges_networkUpdated, List.nil_append]
        intro s' hs'
        rw [List.mem_singleton.1 hs']
        exact haddress
      | keeps hkeeps heq hes =>
        rw [hes, stateChanges_networkUpdated]
        simp

theorem published_loopback {svc : RoomService} {call : RoomCall} (hs : svc.state.OnLoopback)
    (hs' : (svc.step call).state.OnLoopback) : ∀ s ∈ stateChanges (svc.publishedBy call), s.OnLoopback := by
  have hpolling : ∀ {refresh?}, svc.Polling (svc.step call) refresh? →
      ∀ s ∈ stateChanges (svc.publishedBy call), s.OnLoopback := by
    intro refresh? h s hmem address haddress
    rw [polling_published h s hmem] at haddress
    exact hs address haddress
  cases call with
  | create request answer => exact fun s hmem => opening_published (create_opening svc request answer) s hmem ▸ hs'
  | join request answer => exact fun s hmem => opening_published (join_opening svc request answer) s hmem ▸ hs'
  | leave answer => exact fun s hmem => leave_published (leave_leave svc answer) s hmem ▸ hs'
  | diagnose refresh answer =>
    intro s hmem
    have hnil : stateChanges (svc.publishedBy (.diagnose refresh answer)) = [] :=
      diagnosis_published (diagnose_diagnosis svc refresh answer)
    rw [hnil] at hmem
    cases hmem
  | setLanAddress request answer refresh => exact hpolling (setLanAddress_polling svc request answer refresh)
  | status refresh => exact hpolling (pollAndEmit_polling svc refresh)
  | pollAndEmit refresh => exact hpolling (pollAndEmit_polling svc refresh)

theorem shown_loopback_iff : ∀ (calls : List RoomCall) {svc : RoomService}, svc.state.OnLoopback →
    ((∀ s ∈ svc.shown calls, s.OnLoopback) ↔ Run.Along RoomService.step? RoomService.KeepsLoopback svc calls)
  | [], svc, hs => ⟨fun _ => trivial, fun _ s hmem => List.mem_singleton.1 hmem ▸ hs⟩
  | call :: calls, svc, hs => by
    have hhead : (svc.step call).state ∈ (svc.step call).shown calls := by cases calls <;> simp [RoomService.shown]
    have hstep := step_loopback_iff svc call hs
    have htail : (svc.step call).state.OnLoopback → ((∀ s ∈ (svc.step call).shown calls, s.OnLoopback) ↔
        Run.Along RoomService.step? RoomService.KeepsLoopback (svc.step call) calls) := shown_loopback_iff calls
    constructor
    · intro h
      have hrest : ∀ s ∈ (svc.step call).shown calls, s.OnLoopback := fun s hmem => h s (by simp [RoomService.shown, hmem])
      exact ⟨hstep.2 (hrest _ hhead), (htail (hrest _ hhead)).1 hrest⟩
    · rintro ⟨hok, hrest⟩ s hmem
      have hs' := hstep.1 hok
      simp only [RoomService.shown, List.mem_cons, List.mem_append, Option.mem_toList] at hmem
      rcases hmem with rfl | (hreturned | hpublished) | hlater
      · exact hs
      · exact returned_eq hreturned ▸ hs'
      · exact published_loopback hs hs' s hpublished
      · exact (htail hs').2 hrest s hlater

/-- **Every stored, returned or published snapshot is on loopback exactly when every call meets the condition.** -/
theorem addresses_are_loopback_iff (calls : List RoomCall) :
    (∀ s ∈ RoomService.new.shown calls, s.OnLoopback) ↔
      Run.Along RoomService.step? RoomService.KeepsLoopback .new calls :=
  shown_loopback_iff calls (fun _ h => by cases h)

/-- **A poll and a diagnosis store an address of the network** that a create refuses. -/
theorem refresh_stores_foreign_address :
    let create : RoomCall := .create sampleCreate (.ok sampleRoom)
    let foreign : BackendRefresh := { network := some healthyNetwork, localAddress := some "192.0.2.1:25565" }
    let poll : RoomCall := .pollAndEmit (.ok foreign)
    let diagnose : RoomCall := .diagnose (.ok foreign) (.ok healthyNetwork)
    (RoomService.new.step (.create sampleCreate (.ok { sampleRoom with localAddress := some "192.0.2.1:25565" }))).state.state =
        .faulted ∧
      (openRoom.step poll).state.localAddress = some "192.0.2.1:25565" ∧
      (openRoom.step diagnose).state.localAddress = some "192.0.2.1:25565" ∧
      ¬ LoopbackEndpoint "192.0.2.1:25565" ∧
      (¬ ∀ s ∈ RoomService.new.shown [create, poll], s.OnLoopback) ∧
      ¬ ∀ s ∈ RoomService.new.shown [create, diagnose], s.OnLoopback := by
  intro create foreign poll diagnose
  have hforeign : ¬ LoopbackEndpoint "192.0.2.1:25565" := by
    have hparse : (SocketAddr.parse "192.0.2.1:25565").map (·.ip.isLoopback) = some false := by decide
    rintro ⟨address, haddress, hloopback, -⟩
    rw [haddress] at hparse
    simp [hloopback] at hparse
  have hpoll : (openRoom.step poll).state.localAddress = some "192.0.2.1:25565" := by decide
  have hdiagnose : (openRoom.step diagnose).state.localAddress = some "192.0.2.1:25565" := by decide
  refine ⟨by decide, hpoll, hdiagnose, hforeign, fun h => hforeign ?_, fun h => hforeign ?_⟩
  · exact h (openRoom.step poll).state (by simp [RoomService.shown, openRoom, RoomService.runCalls, create]) _ hpoll
  · exact h (openRoom.step diagnose).state (by simp [RoomService.shown, openRoom, RoomService.runCalls, create]) _ hdiagnose

end Terracotta
