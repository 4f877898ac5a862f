import Terracotta.MemberEvents
import Terracotta.BoundedQueue
import Terracotta.Run
/-!
# From the event bus to a listener (`room/events.rs`, `ipc/session.rs`)

The calls of a session publish on a bus that keeps the last 64 events for its receiver.  Between the calls the session
takes one and writes it; where it has fallen behind it hears so once, and goes on with the oldest event that is left.  A
listener at the other end has nothing but what was written, under numbers that show no gap.
-/
namespace Terracotta

open KeyedView (byKey)
open Run (run Along Always)

/-! ## The bus -/

/-- `EVENT_CAPACITY`. -/
def eventCapacity : Nat := 64

/-- `broadcast::Receiver`: the events it can still take, and how many went by it since it took one. -/
structure BusReceiver where
  queue : List RoomEvent
  missed : Nat

inductive Received where
  | event (event : RoomEvent)
  | lagged (missed : Nat)

namespace BusReceiver

/-- `RoomEventBus::publish`, to one receiver. -/
def publish (r : BusReceiver) (event : RoomEvent) : BusReceiver where
  queue := BoundedQueue.write eventCapacity r.queue event
  missed := if r.queue.length < eventCapacity then r.missed else r.missed + 1

/-- `Receiver::recv`, where it does not wait. -/
def recv (r : BusReceiver) : Option (Received × BusReceiver) :=
  if r.missed ≠ 0 then some (.lagged r.missed, { r with missed := 0 })
  else match r.queue with
    | [] => none
    | event :: queue => some (.event event, { r with queue })

end BusReceiver

/-! ## The session -/

/-- The event side of `session::run`: `written` are the events it wrote, with their numbers. -/
structure EventSession where
  room : RoomService
  events : BusReceiver
  eventSequence : Nat
  written : List (Nat × RoomEvent)

inductive EventLabel where
  -- a request, or a tick of the poll
  | call (call : RoomCall)
  -- the branch of the bus, where its write goes through; one that fails ends the session
  | recv

namespace EventSession

def start : EventSession := ⟨.new, ⟨[], 0⟩, 0, []⟩

def step (s : EventSession) : EventLabel → Option EventSession
  | .call call => some { s with
      room := s.room.step call, events := (s.room.publishedBy call).foldl BusReceiver.publish s.events }
  | .recv => match s.events.recv with
    | none => none
    | some (.lagged _, events) => some { s with events }
    | some (.event event, events) =>
      let eventSequence := (s.eventSequence + 1) % 2 ^ 64
      some { s with events, eventSequence, written := s.written ++ [(eventSequence, event)] }

/-- What a listener has of the run. -/
def heard (s : EventSession) : List RoomEvent := s.written.map Prod.snd

/-- **Nothing is lost**: what was published was written, or can still be taken. -/
def Complete (s : EventSession) : Prop := s.heard ++ s.events.queue = s.room.published

/-- There is room on the bus for what a call publishes. -/
def Roomy (s : EventSession) : EventLabel → Prop
  | .call call => s.events.queue.length + (s.room.publishedBy call).length ≤ eventCapacity
  | .recv => True

instance (s : EventSession) : ∀ l, Decidable (s.Roomy l)
  | .call call => inferInstanceAs (Decidable (s.events.queue.length + (s.room.publishedBy call).length ≤ eventCapacity))
  | .recv => .isTrue trivial

end EventSession

/-! ## What the bus keeps -/

theorem foldl_publish_queue : ∀ (events : List RoomEvent) (r : BusReceiver),
    (events.foldl BusReceiver.publish r).queue = events.foldl (BoundedQueue.write eventCapacity) r.queue
  | [], _ => rfl
  | e :: events, r => foldl_publish_queue events (r.publish e)

theorem foldl_write_of_room : ∀ {events queue : List RoomEvent}, queue.length + events.length ≤ eventCapacity →
    events.foldl (BoundedQueue.write eventCapacity) queue = queue ++ events
  | [], queue, _ => (List.append_nil queue).symm
  | e :: events, queue, h => by
    rw [List.length_cons] at h
    rw [List.foldl_cons, BoundedQueue.write_of_room (by omega), foldl_write_of_room]
    · rw [List.append_assoc, List.singleton_append]
    · rw [List.length_append, List.length_singleton]
      omega

/-- The events of a call go over the bus one by one. -/
theorem foldl_write_delivers {published out : List RoomEvent} : ∀ {events queue : List RoomEvent},
    BoundedQueue.Delivers eventCapacity published out queue →
      BoundedQueue.Delivers eventCapacity (published ++ events) out
        (events.foldl (BoundedQueue.write eventCapacity) queue)
  | [], queue, h => by rwa [List.append_nil]
  | e :: events, queue, h => by
    have hrest : BoundedQueue.Delivers eventCapacity (published ++ [e] ++ events) out
        (events.foldl (BoundedQueue.write eventCapacity) (BoundedQueue.write eventCapacity queue e)) :=
      foldl_write_delivers (h.write (by decide) e)
    rwa [List.append_assoc, List.singleton_append] at hrest

/-! ## What a call publishes -/

/-- **The events of a call**, between the services before and behind it: none, the one that starts a room or ends it, or
those of a poll, which tell a state change last. -/
inductive Tells (svc svc' : RoomService) : Bool → List RoomEvent → Prop
  | nothing (starts : Bool) (hstate : svc'.state.state = svc.state.state ∨ svc'.state.state = .faulted) :
      Tells svc svc' starts []
  | opens (hidle : svc.state.state = .idle) (snapshot : RoomSnapshot) (hconnected : snapshot.state = .connected)
      (hstate : svc'.state = snapshot) : Tells svc svc' true [.stateChanged snapshot]
  | ends (hstate : svc'.state = .idle) : Tells svc svc' true [.stateChanged .idle]
  | polls (hpolled : svc.state.Polled) (news : List RoomEvent) (hnews : ∀ e ∈ news, ∀ s, e ≠ .stateChanged s)
      (hstate : svc'.state.state = svc.state.state) : Tells svc svc' false news
  | turns (hpolled : svc.state.Polled) (news : List RoomEvent) (hnews : ∀ e ∈ news, ∀ s, e ≠ .stateChanged s)
      (snapshot : RoomSnapshot) (hopen : snapshot.Open) (hstate : svc'.state.state = snapshot.state) :
      Tells svc svc' false (news ++ [.stateChanged snapshot])

/-- A call tells of its step, and adds that to what was published. -/
def TellsOf (svc svc' : RoomService) (starts : Bool) : Prop :=
  ∃ events, svc'.published = svc.published ++ events ∧ Tells svc svc' starts events

theorem tells_self (svc : RoomService) (starts : Bool) : TellsOf svc svc starts :=
  ⟨[], (List.append_nil _).symm, .nothing starts (.inl rfl)⟩

theorem opening_tells {svc svc' : RoomService} {valid : Prop} {answered : Except RoomError BackendRoom}
    (h : svc.Opening svc' valid answered) : TellsOf svc svc' true := by
  cases h with
  | refused hno heq => exact heq ▸ tells_self svc true
  | opened hidle hvalid role gameSessionId room hroom heq => exact ⟨_, by rw [heq]; rfl, .opens hidle _ rfl (by rw [heq]; rfl)⟩
  | failed hidle hvalid role gameSessionId error herror heq =>
    exact ⟨[], by rw [heq, List.append_nil], .nothing true (.inr (by rw [heq]; rfl))⟩

theorem leave_tells {svc svc' : RoomService} {answer : Except RoomError Unit} (h : svc.Leave svc' answer) :
    TellsOf svc svc' true := by
  cases h with
  | refused hno heq => exact heq ▸ tells_self svc true
  | left hyes hanswer heq => exact ⟨_, by rw [heq]; rfl, .ends (by rw [heq]; rfl)⟩
  | failed hyes error hanswer heq => exact ⟨[], by rw [heq, List.append_nil], .nothing true (.inr (by rw [heq]; rfl))⟩

theorem diagnosis_tells {svc svc' : RoomService} {refresh : BackendRefresh} {answer : Except RoomError NetworkStatus}
    (h : svc.Diagnosis svc' refresh answer) : TellsOf svc svc' false := by
  cases h with
  | refused hno heq => exact heq ▸ tells_self svc false
  | reported hopen network hnetwork heq => exact ⟨[], by rw [heq, List.append_nil], .nothing false (.inl (by rw [heq]))⟩
  | failed hopen error herror heq => exact ⟨[], by rw [heq, List.append_nil], .nothing false (.inr (by rw [heq]; rfl))⟩

theorem peerEvents_news (svc : RoomService) (refresh : BackendRefresh) :
    ∀ e ∈ svc.peerEvents refresh, ∀ s, e ≠ .stateChanged s := by
  intro e he s hs
  unfold RoomService.peerEvents at he
  cases hmembers : refresh.members with
  | none => rw [hmembers] at he; cases he
  | some members =>
    rw [hmembers] at he
    obtain ⟨_, _, _, h⟩ | ⟨_, _, _, _, _, h⟩ | ⟨_, _, _, h⟩ := mem_memberEvents he <;> rw [h] at hs <;> cases hs

theorem networkUpdated_news (b : Bool) (network : NetworkStatus) :
    ∀ e ∈ (if b then [] else [RoomEvent.networkUpdated network]), ∀ s, e ≠ .stateChanged s := by
  cases b with
  | true => exact fun e he => by cases he
  | false =>
    intro e he s hs
    rw [List.mem_singleton.1 he] at hs
    cases hs

theorem news_append {as bs : List RoomEvent} (ha : ∀ e ∈ as, ∀ s, e ≠ .stateChanged s)
    (hb : ∀ e ∈ bs, ∀ s, e ≠ .stateChanged s) : ∀ e ∈ as ++ bs, ∀ s, e ≠ .stateChanged s :=
  fun e he => (List.mem_append.1 he).elim (ha e) (hb e)

theorem polling_tells {svc svc' : RoomService} {refresh? : Option BackendRefresh} (h : svc.Polling svc' refresh?) :
    TellsOf svc svc' false := by
  cases h with
  | refused hno heq => exact heq ▸ tells_self svc false
  | stored refresh hrefresh hpolled hpoll hknown =>
    have hpeers := peerEvents_news svc refresh
    cases hpoll with
    | noNetwork hnone hstate hevents => exact ⟨_, hevents, .polls hpolled _ hpeers (by rw [hstate]; rfl)⟩
    | network network hnetwork s events hs hstate hevents =>
      refine ⟨_, hevents, ?_⟩
      have hstate' : svc'.state.state = s.state := by rw [hstate]; rfl
      cases hs with
      | keeps hkeeps heq hkept =>
        refine .polls hpolled _ (news_append hpeers ?_) (by rw [hstate', heq])
        rw [hkept]
        exact networkUpdated_news _ network
      | flips hflips heq hflipped =>
        rw [hflipped, ← List.append_assoc]
        refine .turns hpolled _ (news_append hpeers (networkUpdated_news _ network)) s ?_ hstate'
        rcases hflips with ⟨-, hconnected⟩ | ⟨-, hreconnecting⟩
        · exact .inr (by rw [heq]; simp only [hconnected]; rfl)
        · exact .inl (by rw [heq]; simp only [hreconnecting]; rfl)

theorem step_tellsOf (svc : RoomService) (call : RoomCall) : TellsOf svc (svc.step call) call.starts := by
  cases call with
  | create request answer => exact opening_tells (create_opening svc request answer)
  | join request answer => exact opening_tells (join_opening svc request answer)
  | setLanAddress request answer refresh => exact polling_tells (setLanAddress_polling svc request answer refresh)
  | status refresh => exact polling_tells (pollAndEmit_polling svc refresh)
  | pollAndEmit refresh => exact polling_tells (pollAndEmit_polling svc refresh)
  | diagnose refresh answer => exact diagnosis_tells (diagnose_diagnosis svc refresh answer)
  | leave answer => exact leave_tells (leave_leave svc answer)

theorem step_tells (svc : RoomService) (call : RoomCall) :
    (svc.step call).published = svc.published ++ svc.publishedBy call ∧
      Tells svc (svc.step call) call.starts (svc.publishedBy call) := by
  obtain ⟨events, hevents, htells⟩ := step_tellsOf svc call
  have hby : svc.publishedBy call = events := by
    unfold RoomService.publishedBy
    rw [hevents, List.drop_left]
  rw [hby]
  exact ⟨hevents, htells⟩

/-! ## The listener -/

/-- What a listener makes of the events: the state it heard of last, and its members. -/
structure Listener where
  announced : RoomState
  members : MemberView

namespace Listener

def new : Listener := ⟨.idle, byKey RoomMember.id []⟩

/-- A room that ends, or one that is connected where there was none, starts the members again. -/
def hear (l : Listener) : RoomEvent → Listener
  | .stateChanged snapshot =>
    { announced := snapshot.state
      members := if snapshot.state = .idle ∨ snapshot.state = .connected ∧ l.announced = .idle then
        byKey RoomMember.id snapshot.members else l.members }
  | event => { l with members := l.members.observe false event }

theorem hear_news : ∀ {events : List RoomEvent} (l : Listener), (∀ e ∈ events, ∀ s, e ≠ .stateChanged s) →
    events.foldl hear l = { l with members := events.foldl (MemberView.observe false) l.members }
  | [], _, _ => rfl
  | e :: events, l, h => by
    have hhead : l.hear e = { l with members := l.members.observe false e } := by
      cases e with
      | stateChanged s => exact absurd rfl (h _ List.mem_cons_self s)
      | _ => rfl
    rw [List.foldl_cons, hhead, hear_news _ fun e he => h e (List.mem_cons_of_mem _ he)]
    rfl

/-- The listener knows the state, but for a fault, of which nothing is told. -/
def Informed (l : Listener) (svc : RoomService) : Prop := svc.state.state ≠ .faulted → l.announced = svc.state.state

/-- **A listener tells by the events alone** which of them start its members again. -/
theorem Informed.hear {l : Listener} {svc svc' : RoomService} {starts : Bool} {events : List RoomEvent}
    (h : l.Informed svc) (htells : Tells svc svc' starts events) :
    (events.foldl Listener.hear l).members = events.foldl (MemberView.observe starts) l.members ∧
      (events.foldl Listener.hear l).Informed svc' := by
  have hopen : svc.state.Polled → l.announced ≠ .idle := by
    rintro (hs | hs | hs) <;> rw [h (by rw [hs]; exact RoomState.noConfusion), hs] <;> exact RoomState.noConfusion
  cases htells with
  | nothing starts hstate =>
    refine ⟨rfl, fun hfaulted => ?_⟩
    rcases hstate with hsame | hfault
    · rw [hsame]
      exact h (hsame ▸ hfaulted)
    · exact absurd hfault hfaulted
  | opens hidle snapshot hconnected hstate =>
    have hannounced : l.announced = .idle := (h (by rw [hidle]; exact RoomState.noConfusion)).trans hidle
    refine ⟨?_, fun _ => by rw [hstate]; rfl⟩
    simp only [List.foldl_cons, List.foldl_nil, Listener.hear, MemberView.observe]
    rw [if_pos (.inr ⟨hconnected, hannounced⟩), if_pos trivial]
  | ends hstate => exact ⟨rfl, fun _ => by rw [hstate]; rfl⟩
  | polls hpolled news hnews hstate =>
    rw [hear_news l hnews]
    refine ⟨rfl, fun hfaulted => ?_⟩
    rw [hstate]
    exact h (hstate ▸ hfaulted)
  | turns hpolled news hnews snapshot hsnapshot hstate =>
    rw [List.foldl_append, List.foldl_append, hear_news l hnews]
    refine ⟨?_, fun _ => by rw [hstate]; rfl⟩
    simp only [List.foldl_cons, List.foldl_nil, Listener.hear, MemberView.observe]
    have hkeeps : ¬ (snapshot.state = .idle ∨ snapshot.state = .connected ∧ l.announced = .idle) := by
      rintro (hidle | ⟨-, hidle⟩)
      · rcases hsnapshot with hs | hs <;> rw [hs] at hidle <;> cases hidle
      · exact hopen hpolled hidle
    rw [if_neg hkeeps]
    rfl

end Listener

/-! ## Runs -/

namespace EventSession

variable {s t : EventSession}

/-- **The invariant of every run**: the numbers have no gap, and the bus delivers in the order of the publications. -/
structure Delivered (s : EventSession) : Prop where
  numbers : s.written.map Prod.fst = (List.range s.written.length).map fun k => (k + 1) % 2 ^ 64
  sequence : s.eventSequence = s.written.length % 2 ^ 64
  delivers : BoundedQueue.Delivers eventCapacity s.room.published s.heard s.events.queue

theorem delivered_start : start.Delivered := ⟨rfl, rfl, .nil _⟩

theorem recv_cases (h : s.step .recv = some t) :
    (t.room = s.room ∧ t.events.queue = s.events.queue ∧ t.eventSequence = s.eventSequence ∧ t.written = s.written) ∨
      ∃ event, s.events.queue = event :: t.events.queue ∧ t.room = s.room ∧
        t.eventSequence = (s.eventSequence + 1) % 2 ^ 64 ∧ t.written = s.written ++ [(t.eventSequence, event)] := by
  obtain ⟨room, ⟨queue, missed⟩, sequence, written⟩ := s
  unfold step BusReceiver.recv at h
  by_cases hmissed : missed ≠ 0
  · simp only [if_pos hmissed] at h
    cases h
    exact .inl ⟨rfl, rfl, rfl, rfl⟩
  · simp only [if_neg hmissed] at h
    cases queue with
    | nil => cases h
    | cons event queue =>
      cases h
      exact .inr ⟨event, rfl, rfl, rfl, rfl⟩

theorem step_delivered {l : EventLabel} (h : s.Delivered) (hstep : s.step l = some t) : t.Delivered := by
  cases l with
  | call call =>
    cases hstep
    refine ⟨h.numbers, h.sequence, ?_⟩
    simp only [heard]
    rw [foldl_publish_queue, (step_tells s.room call).1]
    exact foldl_write_delivers h.delivers
  | recv =>
    rcases recv_cases hstep with ⟨hroom, hqueue, hsequence, hwritten⟩ | ⟨event, hqueue, hroom, hsequence, hwritten⟩
    · have hheard : t.heard = s.heard := by unfold heard; rw [hwritten]
      exact ⟨hwritten ▸ h.numbers, by rw [hsequence, hwritten]; exact h.sequence,
        by rw [hroom, hqueue, hheard]; exact h.delivers⟩
    · have hheard : t.heard = s.heard ++ [event] := by
        unfold heard
        rw [hwritten, List.map_append]
        rfl
      have hnumber : t.eventSequence = (s.written.length + 1) % 2 ^ 64 := by
        rw [hsequence, h.sequence, Nat.mod_add_mod]
      refine ⟨?_, ?_, ?_⟩
      · rw [hwritten, List.map_append, List.length_append, List.length_singleton, List.range_succ, List.map_append,
          h.numbers, List.map_singleton, List.map_singleton, hnumber]
      · rw [hwritten, List.length_append, List.length_singleton, hnumber]
      · have hdelivers := h.delivers
        rw [hqueue] at hdelivers
        rw [hroom, hheard]
        exact hdelivers.read

/-- **A step loses nothing exactly where the bus has room.** -/
theorem step_complete_iff (s : EventSession) (l : EventLabel) (hd : s.Delivered) (h : s.Complete) :
    s.Roomy l ↔ ∀ t, s.step l = some t → t.Complete := by
  cases l with
  | recv =>
    refine ⟨fun _ t hstep => ?_, fun _ => trivial⟩
    unfold Complete heard at h ⊢
    rcases recv_cases hstep with ⟨hroom, hqueue, -, hwritten⟩ | ⟨event, hqueue, hroom, -, hwritten⟩
    · rw [hroom, hqueue, hwritten]
      exact h
    · rw [hroom, hwritten, List.map_append, List.append_assoc, ← h, hqueue]
      rfl
  | call call =>
    have hpublished := (step_tells s.room call).1
    constructor
    · rintro hroom t ⟨⟩
      unfold Complete heard at h ⊢
      simp only
      rw [foldl_publish_queue, foldl_write_of_room hroom, ← List.append_assoc, h, hpublished]
    · intro hall
      obtain ⟨t, ht⟩ : ∃ t, s.step (.call call) = some t := ⟨_, rfl⟩
      have hroom : t.room.published = s.room.published ++ s.room.publishedBy call := by cases ht; exact hpublished
      have hheard : t.heard = s.heard := by cases ht; rfl
      have hbound := (step_delivered hd ht).delivers.bound
      -- what a listener lacks of the publications is no more than what the bus holds
      have hafter : t.heard ++ t.events.queue = t.room.published := hall t ht
      have hbefore : s.heard ++ s.events.queue = s.room.published := h
      rw [hheard, hroom, ← hbefore, List.append_assoc] at hafter
      have hqueue := congrArg List.length (List.append_cancel_left hafter)
      rw [List.length_append] at hqueue
      rw [hqueue] at hbound
      exact hbound

/-- **Events get lost exactly where more than 64 of them wait**, counted behind each call. -/
theorem no_event_is_dropped_iff (labels : List EventLabel) :
    Always step Complete start labels ↔ Along step Roomy start labels :=
  Run.always_iff_along_of Delivered Complete (fun _ _ _ => step_delivered) step_complete_iff labels delivered_start rfl

/-! ### What a listener knows -/

/-- A listener that heard everything the bus has had for it. -/
structure Followed (ordinary : F64 → Prop) (s : EventSession) : Prop where
  informed : (s.room.published.foldl Listener.hear .new).Informed s.room
  watched : s.room.Watched ordinary (s.room.published.foldl Listener.hear .new).members

theorem followed_start (ordinary : F64 → Prop) : Followed ordinary start where
  informed := fun _ => rfl
  watched := ⟨⟨List.nodup_nil, by simp [start, RoomService.new], by simp [start, RoomService.new]⟩, rfl⟩

/-- The lists of a call have the members the service can compare. -/
def ListsOk (ordinary : F64 → Prop) : EventLabel → Prop
  | .call call => ∀ members ∈ call.memberLists, MembersOk ordinary members
  | .recv => True

theorem step_followed {ordinary : F64 → Prop} (hord : ∀ x y, ordinary x → ordinary y → (x.eq y = true ↔ x = y))
    {l : EventLabel} (h : s.Followed ordinary) (hl : ListsOk ordinary l) (hstep : s.step l = some t) :
    t.Followed ordinary := by
  cases l with
  | recv =>
    obtain ⟨hroom, -⟩ | ⟨-, -, hroom, -⟩ := recv_cases hstep
    · exact ⟨hroom ▸ h.informed, hroom ▸ h.watched⟩
    · exact ⟨hroom ▸ h.informed, hroom ▸ h.watched⟩
  | call call =>
    cases hstep
    obtain ⟨hpublished, htells⟩ := step_tells s.room call
    obtain ⟨hmembers, hinformed⟩ := h.informed.hear htells
    have hwatched : ((s.room.step call).Watched ordinary
        (s.room.watch (s.room.published.foldl Listener.hear .new).members call)) := step_watched hord h.watched hl
    unfold RoomService.watch at hwatched
    rw [← hmembers] at hwatched
    constructor
    · simp only
      rw [hpublished, List.foldl_append]
      exact hinformed
    · simp only
      rw [hpublished, List.foldl_append]
      exact hwatched

/-- **What is written is what was published, in its order**, under numbers without a gap, and the last 64 events are
there or were: what went by is older. -/
theorem events_are_written_in_order (labels : List EventLabel) (s : EventSession) (hrun : run step start labels = some s) :
    s.written.map Prod.fst = (List.range s.written.length).map (fun k => (k + 1) % 2 ^ 64) ∧
      (s.heard ++ s.events.queue).Sublist s.room.published ∧
      s.room.published.drop (s.room.published.length - 64) <:+ s.heard ++ s.events.queue := by
  have h : s.Delivered := Run.invariant_all Delivered (fun _ _ _ => step_delivered) delivered_start hrun
  exact ⟨h.numbers, h.delivers.order, h.delivers.recent⟩

/-- **A listener that has caught up knows the room**: where the bus had room for every call and is empty, its members are
those the room has told of, and its state is the room's, but for a fault. -/
theorem caught_up_listener_knows_the_room {ordinary : F64 → Prop}
    (hord : ∀ x y, ordinary x → ordinary y → (x.eq y = true ↔ x = y)) (labels : List EventLabel) (s : EventSession)
    (hroomy : Along step Roomy start labels) (hlists : Along step (fun _ => ListsOk ordinary) start labels)
    (hrun : run step start labels = some s) (hread : s.events.queue = []) :
    (s.heard.foldl Listener.hear .new).members = s.room.knownMembers.view ∧
      (s.room.state.state ≠ .faulted → (s.heard.foldl Listener.hear .new).announced = s.room.state.state) := by
  have hcomplete : s.Complete := Run.always_last ((no_event_is_dropped_iff labels).2 hroomy) hrun
  have hfollowed : s.Followed ordinary :=
    Run.invariant (Followed ordinary) (fun _ _ _ h hl ht => step_followed hord h hl ht) (followed_start ordinary) hlists hrun
  have hheard : s.heard = s.room.published := by
    unfold Complete at hcomplete
    rwa [hread, List.append_nil] at hcomplete
  rw [hheard]
  exact ⟨hfollowed.watched.same, hfollowed.informed⟩

/-- A room is opened, and a guest comes. -/
def guestLabels : List EventLabel :=
  [.call (.create sampleCreate (.ok sampleRoom)), .recv, .call (.pollAndEmit (.ok { members := some [sampleGuest] })), .recv]

theorem guest_is_heard_of : ∃ s, run step start guestLabels = some s ∧
    (s.heard.foldl Listener.hear .new).members = s.room.knownMembers.view := by
  have hord : ∀ x y : F64, x = F64.zero → y = F64.zero → (x.eq y = true ↔ x = y) := by
    rintro x y rfl rfl
    decide
  have hlist : ∀ guests : List RoomMember, guests = [] ∨ guests = [sampleGuest] →
      MembersOk (fun x => x = F64.zero) guests := by
    rintro guests (rfl | rfl)
    · exact ⟨by decide, by simp⟩
    · exact ⟨by decide, by simp [sampleGuest]⟩
  have hlists : Along step (fun _ => ListsOk fun x => x = F64.zero) start guestLabels := by
    refine ⟨fun members hm => ?_, trivial, fun members hm => ?_, trivial, trivial⟩
    · exact hlist members (.inl (List.mem_singleton.1 hm))
    · exact hlist members (.inr (List.mem_singleton.1 hm))
  exact ⟨_, rfl, (caught_up_listener_knows_the_room hord guestLabels _ (by decide) hlists rfl rfl).1⟩

theorem guest_is_written_in_order : ∃ s, run step start guestLabels = some s ∧ s.written.map Prod.fst = [1, 2] :=
  ⟨_, rfl, (events_are_written_in_order guestLabels _ rfl).1⟩

end EventSession

end Terracotta
