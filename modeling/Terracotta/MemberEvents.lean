import Terracotta.Announced
import Terracotta.KeyedView
/-!
# A view kept by the peer events

A listener starts from the members in the event of a create, join or leave, and applies every peer event after it.  What
it holds is `known_members`, whatever calls come in between: those three write both, a poll replaces the copy by the list
whose changes it publishes, and `diagnose` stores members and touches neither.
-/
namespace Terracotta

open KeyedView (Change byKey AllNews)

/-- A listener's members, by id. -/
abbrev MemberView := String → Option RoomMember

def RoomEvent.change : RoomEvent → Option (Change String RoomMember)
  | .peerJoined member => some (.joined member)
  | .peerUpdated member => some (.updated member)
  | .peerLeft id => some (.left id)
  | _ => none

def peerChanges (events : List RoomEvent) : List (Change String RoomMember) := events.filterMap RoomEvent.change

/-- The view over one event; the state change of a create, join or leave starts it again. -/
def MemberView.observe (starts : Bool) (view : MemberView) : RoomEvent → MemberView
  | .stateChanged snapshot => if starts then byKey RoomMember.id snapshot.members else view
  | event => match event.change with
    | none => view
    | some change => KeyedView.apply RoomMember.id view change

def RoomCall.starts : RoomCall → Bool
  | .create .. | .join .. | .leave .. => true
  | _ => false

def RoomService.watch (svc : RoomService) (view : MemberView) (call : RoomCall) : MemberView :=
  (svc.publishedBy call).foldl (MemberView.observe call.starts) view

def RoomService.watchAll : RoomService → MemberView → List RoomCall → MemberView
  | _, view, [] => view
  | svc, view, call :: calls => (svc.step call).watchAll (svc.watch view call) calls

/-- The member lists in a backend's answers to a call. -/
def RoomCall.memberLists : RoomCall → List (List RoomMember)
  | .create _ answer | .join _ answer => answer.toOption.toList.map (·.members)
  | .setLanAddress _ _ refresh | .diagnose refresh _ | .status refresh | .pollAndEmit refresh =>
    refresh.toOption.toList.filterMap (·.members)
  | .leave _ => []

/-- Different ids, and losses among doubles that `==` compares as it should. -/
structure MembersOk (ordinary : F64 → Prop) (members : List RoomMember) : Prop where
  nodup : (members.map RoomMember.id).Nodup
  ordinary : ∀ member ∈ members, ∀ x ∈ member.packetLossPercent, ordinary x

/-! ## The table of known members -/

theorem RoomMember.eq_iff {ordinary : F64 → Prop} (hord : ∀ x y, ordinary x → ordinary y → (x.eq y = true ↔ x = y))
    {a b : RoomMember} (ha : ∀ x ∈ a.packetLossPercent, ordinary x) (hb : ∀ x ∈ b.packetLossPercent, ordinary x) :
    a.eq b = true ↔ a = b := by
  have hloss : lossEq a.packetLossPercent b.packetLossPercent = true ↔ a.packetLossPercent = b.packetLossPercent := by
    cases hx : a.packetLossPercent with
    | none => cases b.packetLossPercent <;> simp [lossEq]
    | some x =>
      cases hy : b.packetLossPercent with
      | none => simp [lossEq]
      | some y => simp [lossEq, hord x y (ha x hx) (hb y hy)]
  cases a
  cases b
  simp only at hloss
  simp only [RoomMember.eq, Bool.and_eq_true, beq_iff_eq, hloss, RoomMember.mk.injEq, and_assoc]

/-- **What the table holds**: each member under its own id, once. -/
structure MemberTable.Ok (ordinary : F64 → Prop) (table : MemberTable) : Prop where
  nodup : (table.map Prod.fst).Nodup
  keyed : ∀ e ∈ table, e.1 = e.2.id
  ordinary : ∀ e ∈ table, ∀ x ∈ e.2.packetLossPercent, ordinary x

/-- The table as a view. -/
def MemberTable.view (table : MemberTable) : MemberView := fun id => table.lookup id

theorem MemberTable.view_ne_none {table : MemberTable} {id : String} :
    table.view id ≠ none ↔ id ∈ table.map Prod.fst := by
  unfold MemberTable.view
  induction table with
  | nil => simp
  | cons e table ih =>
    rw [List.lookup_cons, List.map_cons, List.mem_cons]
    by_cases h : id = e.1
    · simp [h]
    · rw [beq_eq_false_iff_ne.2 h]
      simp only
      rw [ih, or_iff_right h]

theorem mem_of_lookup {table : MemberTable} {id : String} {member : RoomMember} (h : table.lookup id = some member) :
    (id, member) ∈ table := by
  induction table with
  | nil => cases h
  | cons e table ih =>
    rw [List.lookup_cons] at h
    by_cases hid : id = e.1
    · simp only [hid, beq_self_eq_true, Option.some.injEq] at h
      rw [hid, ← h]
      exact List.mem_cons_self
    · simp only [beq_eq_false_iff_ne.2 hid] at h
      exact List.mem_cons_of_mem e (ih h)

theorem lookup_insert (table : MemberTable) (member : RoomMember) (id : String) :
    (table.insert member).lookup id = if id = member.id then some member else table.lookup id := by
  unfold MemberTable.insert
  rw [List.lookup_cons]
  by_cases hid : id = member.id
  · simp [hid]
  · rw [if_neg hid, beq_eq_false_iff_ne.2 hid]
    simp only
    induction table with
    | nil => rfl
    | cons e table ih =>
      by_cases he : e.1 = member.id
      · have hne : (id == e.1) = false := beq_eq_false_iff_ne.2 (fun h => hid (h.trans he))
        rw [List.filter_cons_of_neg (by simpa using he), List.lookup_cons, hne]
        exact ih
      · rw [List.filter_cons_of_pos (by simpa using he), List.lookup_cons, List.lookup_cons, ih]

theorem MemberTable.Ok.insert {ordinary : F64 → Prop} {table : MemberTable} {member : RoomMember} (h : table.Ok ordinary)
    (hmember : ∀ x ∈ member.packetLossPercent, ordinary x) : (table.insert member).Ok ordinary where
  nodup := by
    unfold MemberTable.insert
    rw [List.map_cons, List.nodup_cons]
    refine ⟨fun hmem => ?_, h.nodup.sublist (List.filter_sublist.map Prod.fst)⟩
    obtain ⟨e, he, hid⟩ := List.mem_map.1 hmem
    exact absurd hid (by simpa using (List.mem_filter.1 he).2)
  keyed := fun e he => by
    rcases List.mem_cons.1 he with rfl | he
    · rfl
    · exact h.keyed e (List.mem_filter.1 he).1
  ordinary := fun e he => by
    rcases List.mem_cons.1 he with rfl | he
    · exact hmember
    · exact h.ordinary e (List.mem_filter.1 he).1

theorem foldl_insert {ordinary : F64 → Prop} : ∀ {members : List RoomMember} {table : MemberTable},
    table.Ok ordinary → MembersOk ordinary members →
      (members.foldl MemberTable.insert table).Ok ordinary ∧
        ∀ id, (members.foldl MemberTable.insert table).lookup id = (byKey RoomMember.id members id).or (table.lookup id)
  | [], table, htable, _ => ⟨htable, fun _ => rfl⟩
  | member :: members, table, htable, h => by
    have hnodup := h.nodup
    rw [List.map_cons, List.nodup_cons] at hnodup
    have hrest : MembersOk ordinary members :=
      ⟨hnodup.2, fun m hm => h.ordinary m (List.mem_cons_of_mem member hm)⟩
    obtain ⟨hok, hlookup⟩ := foldl_insert (htable.insert (h.ordinary member List.mem_cons_self)) hrest
    refine ⟨hok, fun id => ?_⟩
    rw [List.foldl_cons, hlookup, lookup_insert]
    unfold byKey
    rw [List.find?_cons]
    by_cases hid : id = member.id
    · have hnone : members.find? (fun a => decide (a.id = id)) = none := by
        rw [hid]
        exact KeyedView.byKey_of_not_mem hnodup.1
      rw [hnone, if_pos hid]
      simp [hid]
    · rw [if_neg hid, decide_eq_false (fun h => hid h.symm)]

/-- **A table built from a list is the list by its ids.** -/
theorem MemberTable.of_ok {ordinary : F64 → Prop} {members : List RoomMember} (h : MembersOk ordinary members) :
    (MemberTable.of members).Ok ordinary ∧ (MemberTable.of members).view = byKey RoomMember.id members := by
  have hempty : MemberTable.Ok ordinary [] := ⟨List.nodup_nil, by simp, by simp⟩
  obtain ⟨hok, hlookup⟩ := foldl_insert hempty h
  refine ⟨hok, funext fun id => (hlookup id).trans ?_⟩
  cases byKey RoomMember.id members id <;> rfl

/-! ## The published changes -/

theorem memberEvents_changes (known : MemberTable) (members : List RoomMember) :
    peerChanges (memberEvents known members) =
      KeyedView.diff RoomMember.id RoomMember.eq known.view (known.map Prod.fst) members := by
  unfold peerChanges memberEvents KeyedView.diff
  rw [List.filterMap_append, List.filterMap_filterMap, List.filterMap_map]
  congr 1
  · refine List.filterMap_congr fun member _ => ?_
    unfold KeyedView.against MemberTable.view
    cases known.lookup member.id with
    | none => rfl
    | some previous => cases hsame : previous.eq member <;> simp [hsame, RoomEvent.change]
  · change List.filterMap (some ∘ Change.left) _ = _
    rw [List.filterMap_eq_map]

theorem peerChanges_append (as bs : List RoomEvent) : peerChanges (as ++ bs) = peerChanges as ++ peerChanges bs :=
  List.filterMap_append

/-- Where nothing starts the view again, its events are their changes. -/
theorem foldl_observe : ∀ (events : List RoomEvent) (view : MemberView),
    events.foldl (MemberView.observe false) view = (peerChanges events).foldl (KeyedView.apply RoomMember.id) view
  | [], _ => rfl
  | e :: events, view => by
    rw [List.foldl_cons, foldl_observe events]
    unfold peerChanges
    rw [List.filterMap_cons]
    cases e <;> rfl

theorem peerChanges_applies {s s' : RoomSnapshot} {network : NetworkStatus} {events : List RoomEvent}
    (h : AppliesNetwork s network s' events) : peerChanges events = [] := by
  cases h with
  | flips hflips heq hevents =>
    rw [hevents]
    split <;> rfl
  | keeps hkeeps heq hevents =>
    rw [hevents]
    split <;> rfl

/-- **A poll publishes the diff** of its refresh's members, and no peer event where it has none. -/
theorem poll_changes {svc svc' : RoomService} {refresh : BackendRefresh} (h : svc.Poll svc' refresh) :
    peerChanges (svc'.published.drop svc.published.length) = refresh.members.elim [] (fun members =>
      KeyedView.diff RoomMember.id RoomMember.eq svc.knownMembers.view (svc.knownMembers.map Prod.fst) members) := by
  have hpeer : peerChanges (svc.peerEvents refresh) = refresh.members.elim [] (fun members =>
      KeyedView.diff RoomMember.id RoomMember.eq svc.knownMembers.view (svc.knownMembers.map Prod.fst) members) := by
    unfold RoomService.peerEvents
    cases refresh.members with
    | none => rfl
    | some members => exact memberEvents_changes _ members
  cases h with
  | noNetwork hnone hstate hevents => rw [hevents, List.drop_left, hpeer]
  | network network hnetwork s events hs hstate hevents =>
    rw [hevents, List.drop_left, peerChanges_append, peerChanges_applies hs, List.append_nil, hpeer]

/-! ## The view is the known members -/

/-- **The invariant**: the view is the table of known members. -/
structure RoomService.Watched (ordinary : F64 → Prop) (svc : RoomService) (view : MemberView) : Prop where
  table : svc.knownMembers.Ok ordinary
  same : view = svc.knownMembers.view

theorem validateBackendRoom_members {room checked : BackendRoom} {require : Bool}
    (h : validateBackendRoom room require = .ok checked) : checked.members = room.members := by
  unfold validateBackendRoom at h
  simp only [bind, Except.bind, pure, Except.pure] at h
  split at h
  · cases h
  · split at h
    · cases h
    · split at h
      · cases h
      · cases h
        rfl

theorem opening_watched {ordinary : F64 → Prop} {svc svc' : RoomService} {view : MemberView} {valid : Prop}
    {answer : Except RoomError BackendRoom} {require : Bool} (hw : svc.Watched ordinary view)
    (hlists : ∀ members ∈ answer.toOption.toList.map (·.members), MembersOk ordinary members)
    (h : svc.Opening svc' valid (answer.bind (fun room => validateBackendRoom room require))) :
    svc'.Watched ordinary ((svc'.published.drop svc.published.length).foldl (MemberView.observe true) view) := by
  cases h with
  | refused hno heq =>
    subst heq
    rw [List.drop_length]
    exact hw
  | opened hidle hvalid role gameSessionId room hroom heq =>
    subst heq
    cases answer with
    | error error => cases hroom
    | ok answered =>
      have hmembers : room.members = answered.members := validateBackendRoom_members hroom
      obtain ⟨hok, hview⟩ := MemberTable.of_ok (hmembers ▸ hlists answered.members (by simp [Except.toOption]))
      refine ⟨hok, ?_⟩
      simp only [RoomService.publish, List.drop_left]
      exact hview.symm
  | failed hidle hvalid role gameSessionId error herror heq =>
    subst heq
    rw [List.drop_length]
    exact ⟨hw.table, hw.same⟩

theorem refreshOf_memberLists {svc : RoomService} {call : RoomCall} {refresh : BackendRefresh} {members : List RoomMember}
    (hrefresh : svc.refreshOf call = some refresh) (hmembers : refresh.members = some members) :
    members ∈ call.memberLists := by
  have hmem : ∀ answer : Except RoomError BackendRefresh, answer.toOption = some refresh →
      members ∈ answer.toOption.toList.filterMap (·.members) := by
    intro answer hanswer
    rw [hanswer]
    exact List.mem_filterMap.2 ⟨refresh, List.mem_singleton.2 rfl, hmembers⟩
  cases call with
  | create request answer => cases hrefresh
  | join request answer => cases hrefresh
  | diagnose answer network => cases hrefresh
  | leave answer => cases hrefresh
  | status answer => exact hmem answer hrefresh
  | pollAndEmit answer => exact hmem answer hrefresh
  | setLanAddress request taken answer =>
    unfold RoomService.refreshOf at hrefresh
    simp only at hrefresh
    split at hrefresh
    · cases hrefresh
    · split at hrefresh
      · cases hrefresh
      · obtain ⟨_, _, hanswer⟩ := Option.bind_eq_some_iff.1 hrefresh
        exact hmem answer hanswer

/-- The diff against the known members is sound. -/
theorem RoomService.Watched.diff_sound {ordinary : F64 → Prop}
    (hord : ∀ x y, ordinary x → ordinary y → (x.eq y = true ↔ x = y)) {svc : RoomService} {view : MemberView}
    {members : List RoomMember} (hw : svc.Watched ordinary view) (hok : MembersOk ordinary members) :
    let changes :=
      KeyedView.diff RoomMember.id RoomMember.eq svc.knownMembers.view (svc.knownMembers.map Prod.fst) members
    changes.foldl (KeyedView.apply RoomMember.id) view = byKey RoomMember.id members ∧
      AllNews RoomMember.id view changes ∧ (view = byKey RoomMember.id members → changes = []) := by
  rw [hw.same]
  exact KeyedView.diff_sound hok.nodup hw.table.nodup (fun _ => MemberTable.view_ne_none) fun a ha previous hprevious =>
    RoomMember.eq_iff hord (hw.table.ordinary _ (mem_of_lookup hprevious)) (hok.ordinary a ha)

theorem polling_watched {ordinary : F64 → Prop} (hord : ∀ x y, ordinary x → ordinary y → (x.eq y = true ↔ x = y))
    {svc svc' : RoomService} {view : MemberView} {refresh? : Option BackendRefresh} (hw : svc.Watched ordinary view)
    (hlists : ∀ refresh ∈ refresh?, ∀ members ∈ refresh.members, MembersOk ordinary members)
    (h : svc.Polling svc' refresh?) :
    svc'.Watched ordinary ((svc'.published.drop svc.published.length).foldl (MemberView.observe false) view) := by
  cases h with
  | refused hno heq =>
    subst heq
    rw [List.drop_length]
    exact hw
  | stored refresh hrefresh hpolled hpoll hknown =>
    rw [foldl_observe, poll_changes hpoll]
    cases hmembers : refresh.members with
    | none =>
      rw [hmembers] at hknown
      exact ⟨hknown ▸ hw.table, hw.same.trans (congrArg MemberTable.view hknown.symm)⟩
    | some members =>
      rw [hmembers] at hknown
      have hok := hlists refresh hrefresh members hmembers
      obtain ⟨htable, hview⟩ := MemberTable.of_ok hok
      exact ⟨hknown ▸ htable, (hw.diff_sound hord hok).1.trans (hview.symm.trans (congrArg MemberTable.view hknown.symm))⟩

theorem diagnosis_watched {ordinary : F64 → Prop} {svc svc' : RoomService} {view : MemberView} {refresh : BackendRefresh}
    {answer : Except RoomError NetworkStatus} (hw : svc.Watched ordinary view) (h : svc.Diagnosis svc' refresh answer) :
    svc'.Watched ordinary ((svc'.published.drop svc.published.length).foldl (MemberView.observe false) view) := by
  cases h with
  | refused hno heq =>
    subst heq
    rw [List.drop_length]
    exact hw
  | reported hopen network hnetwork heq =>
    subst heq
    rw [List.drop_length]
    exact ⟨hw.table, hw.same⟩
  | failed hopen error herror heq =>
    subst heq
    rw [List.drop_length]
    exact ⟨hw.table, hw.same⟩

theorem leave_watched {ordinary : F64 → Prop} {svc svc' : RoomService} {view : MemberView}
    {answer : Except RoomError Unit} (hw : svc.Watched ordinary view) (h : svc.Leave svc' answer) :
    svc'.Watched ordinary ((svc'.published.drop svc.published.length).foldl (MemberView.observe true) view) := by
  cases h with
  | refused hno heq =>
    subst heq
    rw [List.drop_length]
    exact hw
  | left hyes hanswer heq =>
    subst heq
    simp only [RoomService.publish, List.drop_left]
    exact ⟨⟨List.nodup_nil, by simp, by simp⟩, rfl⟩
  | failed hyes error hanswer heq =>
    subst heq
    rw [List.drop_length]
    exact ⟨hw.table, hw.same⟩

theorem step_watched {ordinary : F64 → Prop} (hord : ∀ x y, ordinary x → ordinary y → (x.eq y = true ↔ x = y))
    {svc : RoomService} {view : MemberView} {call : RoomCall} (hw : svc.Watched ordinary view)
    (hlists : ∀ members ∈ call.memberLists, MembersOk ordinary members) :
    (svc.step call).Watched ordinary (svc.watch view call) := by
  have hpolling : ∀ svc', svc.Polling svc' (svc.refreshOf call) →
      svc'.Watched ordinary ((svc'.published.drop svc.published.length).foldl (MemberView.observe false) view) :=
    fun svc' => polling_watched hord hw fun refresh hrefresh members hmembers =>
      hlists members (refreshOf_memberLists hrefresh hmembers)
  cases call with
  | create request answer => exact opening_watched hw hlists (create_opening svc request answer)
  | join request answer => exact opening_watched hw hlists (join_opening svc request answer)
  | setLanAddress request answer refresh => exact hpolling _ (setLanAddress_polling svc request answer refresh)
  | status refresh => exact hpolling _ (pollAndEmit_polling svc refresh)
  | pollAndEmit refresh => exact hpolling _ (pollAndEmit_polling svc refresh)
  | diagnose refresh answer => exact diagnosis_watched hw (diagnose_diagnosis svc refresh answer)
  | leave answer => exact leave_watched hw (leave_leave svc answer)

theorem watchAll_watched {ordinary : F64 → Prop} (hord : ∀ x y, ordinary x → ordinary y → (x.eq y = true ↔ x = y)) :
    ∀ (calls : List RoomCall) {svc : RoomService} {view : MemberView}, svc.Watched ordinary view →
      (∀ call ∈ calls, ∀ members ∈ call.memberLists, MembersOk ordinary members) →
      (svc.runCalls calls).Watched ordinary (svc.watchAll view calls)
  | [], _, _, hw, _ => hw
  | call :: calls, _, _, hw, hlists =>
    watchAll_watched hord calls (step_watched hord hw (hlists call List.mem_cons_self))
      (fun c hc => hlists c (List.mem_cons_of_mem call hc))

/-- **The peer events keep a view of the members**: after any calls, a poll that stores a member list publishes changes
each of which is news, which leave the view with exactly that list, and none where the view holds it already. -/
theorem view_follows_the_members {ordinary : F64 → Prop}
    (hord : ∀ x y, ordinary x → ordinary y → (x.eq y = true ↔ x = y)) (calls : List RoomCall) (call : RoomCall)
    (hlists : ∀ c ∈ calls ++ [call], ∀ members ∈ c.memberLists, MembersOk ordinary members) (refresh : BackendRefresh)
    (members : List RoomMember) :
    let svc := RoomService.new.runCalls calls
    let view := RoomService.new.watchAll (byKey RoomMember.id []) calls
    svc.refreshOf call = some refresh → svc.state.Polled → refresh.members = some members →
      svc.watch view call = byKey RoomMember.id members ∧
        AllNews RoomMember.id view (peerChanges (svc.publishedBy call)) ∧
        (view = byKey RoomMember.id members → peerChanges (svc.publishedBy call) = []) := by
  intro svc view hrefresh hpolled hmembers
  have hnew : RoomService.new.Watched ordinary (byKey RoomMember.id []) :=
    ⟨⟨List.nodup_nil, by simp [RoomService.new], by simp [RoomService.new]⟩, rfl⟩
  have hw : svc.Watched ordinary view :=
    watchAll_watched hord calls hnew fun c hc => hlists c (List.mem_append_left _ hc)
  have hok : MembersOk ordinary members := hlists call (by simp) members (refreshOf_memberLists hrefresh hmembers)
  have hstarts : call.starts = false := by cases call <;> first | rfl | cases hrefresh
  have hchanges : peerChanges (svc.publishedBy call) =
      KeyedView.diff RoomMember.id RoomMember.eq svc.knownMembers.view (svc.knownMembers.map Prod.fst) members := by
    cases step_polling hrefresh with
    | refused hno heq => exact absurd hpolled (hno refresh rfl)
    | stored refresh' hrefresh' hpolled' hpoll hknown =>
      cases hrefresh'
      exact (poll_changes hpoll).trans (by rw [hmembers]; rfl)
  have hwatch : svc.watch view call = (peerChanges (svc.publishedBy call)).foldl (KeyedView.apply RoomMember.id) view := by
    unfold RoomService.watch
    rw [hstarts, foldl_observe]
  rw [hwatch, hchanges]
  exact hw.diff_sound hord hok

def sampleGuest : RoomMember := ⟨"guest", "Guest", .direct, some 5, some F64.zero⟩

/-- The poll that brings a guest into an open room: the listener's view of the empty room becomes the guest's. -/
theorem guest_joins_the_view :
    let create : RoomCall := .create sampleCreate (.ok sampleRoom)
    let poll : RoomCall := .pollAndEmit (.ok { members := some [sampleGuest] })
    let view := RoomService.new.watchAll (byKey RoomMember.id []) [create]
    openRoom.watch view poll = byKey RoomMember.id [sampleGuest] ∧
      AllNews RoomMember.id view (peerChanges (openRoom.publishedBy poll)) ∧
      (view = byKey RoomMember.id [sampleGuest] → peerChanges (openRoom.publishedBy poll) = []) := by
  intro create poll view
  have hord : ∀ x y : F64, x = F64.zero → y = F64.zero → (x.eq y = true ↔ x = y) := by
    rintro x y rfl rfl
    decide
  refine view_follows_the_members hord [create] poll ?_ { members := some [sampleGuest] } [sampleGuest] rfl
    (Or.inl (by decide)) rfl
  intro c hc members hmembers
  have hsample : MembersOk (fun x => x = F64.zero) [sampleGuest] := ⟨by decide, by simp [sampleGuest]⟩
  have hempty : MembersOk (fun x => x = F64.zero) [] := ⟨by decide, by simp⟩
  rcases List.mem_append.1 hc with hc | hc
  · rw [List.mem_singleton.1 hc] at hmembers
    rw [List.mem_singleton.1 hmembers]
    exact hempty
  · rw [List.mem_singleton.1 hc] at hmembers
    rw [List.mem_singleton.1 hmembers]
    exact hsample

end Terracotta
