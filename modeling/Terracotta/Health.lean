import Terracotta.RoomSteps
/-!
# The state of an open room and the health of its network

A poll moves the state with the health it stores.  `create` and `join` store `Connected` with whatever network the
backend answers, and `diagnose` comes back to the state it left with a new network under it.
-/
namespace Terracotta

/-- **The state says how the network is**: connected with a healthy one, reconnecting with an unhealthy one. -/
def RoomSnapshot.ShowsHealth (s : RoomSnapshot) : Prop :=
  (s.state = .connected → ∃ network, s.network = some network ∧ network.isHealthy = true) ∧
    (s.state = .reconnecting → ∃ network, s.network = some network ∧ network.isHealthy = false)

/-- **The condition on a call**: a room that opens has a healthy network, and a diagnosis reports the health the state
stands for. -/
def RoomService.KeepsHealth (svc : RoomService) : RoomCall → Prop
  | .create request answer => svc.state.state = .idle → request.Valid →
    ∀ room, answer.bind (fun room => validateBackendRoom room false) = .ok room → room.network.isHealthy = true
  | .join request answer => svc.state.state = .idle → request.Valid →
    ∀ room, answer.bind (fun room => validateBackendRoom room true) = .ok room → room.network.isHealthy = true
  | .diagnose refresh answer => ∀ network, reportedNetwork (refresh.toOption.getD {}) answer = .ok network →
    (svc.state.state = .connected → network.isHealthy = true) ∧
      (svc.state.state = .reconnecting → network.isHealthy = false)
  | _ => True

theorem showsHealth_of_not_open {s : RoomSnapshot} (h : ¬ s.Open) : s.ShowsHealth :=
  ⟨fun hc => absurd (Or.inl hc) h, fun hr => absurd (Or.inr hr) h⟩

theorem showsHealth_faulted (role : RoomRole) (gameSessionId : Option String) (error : RoomError) :
    (RoomSnapshot.faulted role gameSessionId error).ShowsHealth :=
  showsHealth_of_not_open (by rintro (h | h) <;> cases h)

theorem opening_health {svc svc' : RoomService} {valid : Prop} {answered : Except RoomError BackendRoom}
    (hs : svc.state.ShowsHealth) (h : svc.Opening svc' valid answered) :
    (svc.state.state = .idle → valid → ∀ room, answered = .ok room → room.network.isHealthy = true) ↔
      svc'.state.ShowsHealth := by
  cases h with
  | refused hno heq =>
    subst heq
    exact ⟨fun _ => hs, fun _ hidle hvalid => absurd ⟨hidle, hvalid⟩ hno⟩
  | opened hidle hvalid role gameSessionId room hroom heq =>
    subst heq
    constructor
    · intro h
      refine ⟨fun _ => ⟨room.network, rfl, h hidle hvalid room hroom⟩, fun hr => ?_⟩
      cases hr
    · intro h _ _ room' hroom'
      obtain ⟨network, hnetwork, hhealthy⟩ := h.1 rfl
      cases hnetwork
      cases hroom.symm.trans hroom'
      exact hhealthy
  | failed hidle hvalid role gameSessionId error herror heq =>
    subst heq
    refine ⟨fun _ => showsHealth_faulted role gameSessionId error, fun _ _ _ room hroom => ?_⟩
    rw [herror] at hroom
    cases hroom

theorem diagnosis_health {svc svc' : RoomService} {refresh : BackendRefresh} {answer : Except RoomError NetworkStatus}
    (hs : svc.state.ShowsHealth) (h : svc.Diagnosis svc' refresh answer) :
    (∀ network, reportedNetwork refresh answer = .ok network →
      (svc.state.state = .connected → network.isHealthy = true) ∧
        (svc.state.state = .reconnecting → network.isHealthy = false)) ↔ svc'.state.ShowsHealth := by
  cases h with
  | refused hno heq =>
    subst heq
    exact ⟨fun _ => hs, fun _ network _ => ⟨fun hc => absurd (Or.inl hc) hno, fun hr => absurd (Or.inr hr) hno⟩⟩
  | reported hopen network hnetwork heq =>
    subst heq
    constructor
    · intro h
      obtain ⟨hc, hr⟩ := h network hnetwork
      exact ⟨fun hstate => ⟨network, rfl, hc hstate⟩, fun hstate => ⟨network, rfl, hr hstate⟩⟩
    · intro h network' hnetwork'
      cases hnetwork.symm.trans hnetwork'
      refine ⟨fun hstate => ?_, fun hstate => ?_⟩
      · obtain ⟨_, hn, hhealthy⟩ := h.1 hstate
        cases hn
        exact hhealthy
      · obtain ⟨_, hn, hhealthy⟩ := h.2 hstate
        cases hn
        exact hhealthy
  | failed hopen error herror heq =>
    subst heq
    refine ⟨fun _ => showsHealth_faulted _ _ error, fun _ network hnetwork => ?_⟩
    rw [herror] at hnetwork
    cases hnetwork

theorem leave_health {svc svc' : RoomService} {answer : Except RoomError Unit} (hs : svc.state.ShowsHealth)
    (h : svc.Leave svc' answer) : svc'.state.ShowsHealth := by
  cases h with
  | refused hno heq => exact heq ▸ hs
  | left hyes hanswer heq =>
    subst heq
    exact showsHealth_of_not_open (by rintro (h | h) <;> cases h)
  | failed hyes error hanswer heq =>
    subst heq
    exact showsHealth_faulted _ _ error

/-- **A poll moves the state with the health it stores.** -/
theorem applies_health {s s' : RoomSnapshot} {network : NetworkStatus} {events : List RoomEvent}
    (h : AppliesNetwork s network s' events) : s'.ShowsHealth := by
  cases h with
  | flips hflips heq hevents =>
    subst heq
    rcases hflips with ⟨hhealth, hstate⟩ | ⟨hhealth, hstate⟩
    · exact ⟨fun hc => by simp [hstate, RoomState.flip] at hc, fun _ => ⟨network, rfl, hhealth⟩⟩
    · exact ⟨fun _ => ⟨network, rfl, hhealth⟩, fun hr => by simp [hstate, RoomState.flip] at hr⟩
  | keeps hkeeps heq hevents =>
    subst heq
    obtain ⟨hdown, hup⟩ := not_or.1 hkeeps
    refine ⟨fun hc => ⟨network, rfl, ?_⟩, fun hr => ⟨network, rfl, ?_⟩⟩
    · exact Bool.of_not_eq_false fun hf => hdown ⟨hf, hc⟩
    · exact Bool.of_not_eq_true fun ht => hup ⟨ht, hr⟩

theorem polling_health {svc svc' : RoomService} {refresh? : Option BackendRefresh} (hs : svc.state.ShowsHealth)
    (h : svc.Polling svc' refresh?) : svc'.state.ShowsHealth := by
  cases h with
  | refused hno heq => exact heq ▸ hs
  | stored refresh hrefresh hpolled hpoll hknown =>
    cases hpoll with
    | noNetwork hnone hstate hevents =>
      rw [hstate]
      exact hs
    | network network hnetwork s events happlies hstate hevents =>
      have hs' : s.ShowsHealth := applies_health happlies
      rw [hstate]
      exact hs'

/-- **One call keeps the rule exactly under the condition.** -/
theorem step_health_iff (svc : RoomService) (call : RoomCall) (hs : svc.state.ShowsHealth) :
    svc.KeepsHealth call ↔ (svc.step call).state.ShowsHealth := by
  cases call with
  | create request answer => exact opening_health hs (create_opening svc request answer)
  | join request answer => exact opening_health hs (join_opening svc request answer)
  | diagnose refresh answer => exact diagnosis_health hs (diagnose_diagnosis svc refresh answer)
  | leave answer => exact iff_of_true trivial (leave_health hs (leave_leave svc answer))
  | setLanAddress request answer refresh =>
    exact iff_of_true trivial (polling_health hs (setLanAddress_polling svc request answer refresh))
  | status refresh => exact iff_of_true trivial (polling_health hs (pollAndEmit_polling svc refresh))
  | pollAndEmit refresh => exact iff_of_true trivial (polling_health hs (pollAndEmit_polling svc refresh))

/-- **The stored state shows the network's health in every state of a run exactly when every call meets the
condition.** -/
theorem state_shows_health_iff (calls : List RoomCall) :
    Run.Always RoomService.step? (fun svc => svc.state.ShowsHealth) .new calls ↔
      Run.Along RoomService.step? RoomService.KeepsHealth .new calls := by
  refine Run.always_iff_along _ (fun svc call hs => ?_) calls (showsHealth_of_not_open (by rintro (h | h) <;> cases h))
  rw [step_health_iff svc call hs]
  exact ⟨fun h _ ht => (Option.some.inj ht) ▸ h, fun h => h _ rfl⟩

/-- **A diagnosis leaves a room connected with an unhealthy network**, and so does a create whose backend answers one. -/
theorem diagnosis_leaves_unhealthy_connected :
    let diagnose : RoomCall := .diagnose (.ok { network := some unhealthyNetwork }) (.ok unhealthyNetwork)
    let created := RoomService.new.step (.create sampleCreate (.ok { sampleRoom with network := unhealthyNetwork }))
    ¬ Run.Always RoomService.step? (fun svc => svc.state.ShowsHealth) .new
        [.create sampleCreate (.ok sampleRoom), diagnose] ∧
      (openRoom.step diagnose).state.state = .connected ∧
      (openRoom.step diagnose).state.network = some unhealthyNetwork ∧
      created.state.state = .connected ∧ created.state.network = some unhealthyNetwork := by
  intro diagnose created
  have hstate : (openRoom.step diagnose).state.state = .connected := by decide
  have hnetwork : (openRoom.step diagnose).state.network = some unhealthyNetwork := by decide
  refine ⟨fun h => ?_, hstate, hnetwork, by decide, by decide⟩
  have hlast : (openRoom.step diagnose).state.ShowsHealth :=
    Run.always_last (I := fun svc => svc.state.ShowsHealth) h (u := openRoom.step diagnose) rfl
  obtain ⟨network, hn, hhealthy⟩ := hlast.1 hstate
  rw [hnetwork] at hn
  cases hn
  cases hhealthy

end Terracotta
