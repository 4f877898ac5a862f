import Mathlib.Data.List.Nodup
import Terracotta.BoundedQueue
import Terracotta.Duplex
import Terracotta.Slots
/-!
# From the reader to the controller (`HelperIpcClient.Events`, `HelperRoomGateway.StartEventPump`)

The reader writes every envelope no call waits for into a channel of 128 elements, which drops the oldest one when it is
full.  The gateway's event pump takes them out and hands them to the controller, whose handler catches what it throws.
-/
namespace Terracotta

/-- `ReadAllAsync` and the body of its `await foreach`. -/
inductive PumpPhase
  -- in `WaitToReadAsync`
  | waiting
  -- before a `TryRead`
  | reading
  | handling (event : Nat)
deriving DecidableEq

/-- A client, its channel and the pumps that read it; events are the numbers of the envelopes they came in. -/
structure PumpedClient (ρ : Type) where
  client : DuplexClient ρ
  queue : List Nat
  completed : Bool
  /-- All that the channel took. -/
  written : List Nat
  /-- The pumps, each with whether its token has fired. -/
  pumps : List (PumpPhase × Bool)
  handled : List Nat

inductive PumpLabel (ρ : Type)
  | client (label : DuplexLabel ρ)
  | startEventPump
  -- the pump with this number is canceled, or goes on
  | cancel (i : Nat)
  | wait (i : Nat)
  | read (i : Nat)
  | handle (i : Nat)

/-- The steps behind which the channel is complete: the reader's last `catch`, and `DisposeAsync`. -/
def DuplexLabel.completes {ρ : Type} : DuplexLabel ρ → Bool
  | .walkEnds | .clear => true
  | _ => false

namespace PumpedClient

variable {ρ : Type}

def init : PumpedClient ρ := ⟨.init, [], false, [], [], []⟩

/-- What the reader adds to the channel; `TryWrite` is false once it is complete. -/
def tryWrite (s : PumpedClient ρ) (events : List Nat) : PumpedClient ρ :=
  if s.completed then s
  else { s with queue := events.foldl (BoundedQueue.write 128) s.queue, written := s.written ++ events }

def step (s : PumpedClient ρ) : PumpLabel ρ → Option (PumpedClient ρ)
  | .client label => match s.client.step label with
    | none => none
    | some client =>
      let s := { s.tryWrite (client.events.drop s.client.events.length) with client }
      some { s with completed := s.completed || label.completes }
  | .startEventPump => some { s with pumps := s.pumps ++ [(.waiting, false)] }
  | .cancel i => match s.pumps[i]? with
    | some (phase, _) => some { s with pumps := s.pumps.set i (phase, true) }
    | none => none
  | .wait i => match s.pumps[i]? with
    | some (.waiting, token) =>
      if token then some { s with pumps := s.pumps.eraseIdx i }
      else if s.queue ≠ [] then some { s with pumps := s.pumps.set i (.reading, token) }
      else if s.completed then some { s with pumps := s.pumps.eraseIdx i }
      else none
    | _ => none
  | .read i => match s.pumps[i]? with
    | some (.reading, token) => match s.queue with
      | [] => some { s with pumps := s.pumps.set i (.waiting, token) }
      | event :: queue => some { s with queue, pumps := s.pumps.set i (.handling event, token) }
    | _ => none
  | .handle i => match s.pumps[i]? with
    | some (.handling event, token) =>
      some { s with handled := s.handled ++ [event], pumps := s.pumps.set i (.reading, token) }
    | _ => none

/-! ## What the reader adds -/

variable {c c' : DuplexClient ρ} {s t : PumpedClient ρ}

/-- **A step of the client adds one event at most**, with the number of the envelope it has just read. -/
inductive Adds (c c' : DuplexClient ρ) : Prop
  | none (hevents : c'.events = c.events) (hinbound : c.inbound.length ≤ c'.inbound.length)
  | one (hevents : c'.events = c.events ++ [c.inbound.length]) (hinbound : c'.inbound.length = c.inbound.length + 1)

theorem step_adds {l : DuplexLabel ρ} (h : c.step l = some c') : Adds c c' := by
  cases DuplexClient.step_moves h with
  | adds call guid hid hcompletion houtcome hcalls hpending hinbound hevents hreader =>
    exact .none hevents (by rw [hinbound])
  | moves i call call' hi hcalls hid hread hcompletion houtcome hpending hinbound hevents hreader =>
    exact .none hevents (by rw [hinbound])
  | idles hcalls hpending hinbound hevents hreader => exact .none hevents (by rw [hinbound])
  | takes envelope k hk hcalls hpending hinbound hevents hreader => exact .none hevents (by simp [hinbound])
  | enters envelope hcalls hpending hinbound hevents hreader => exact .one hevents (by simp [hinbound])
  | resolves n k call hresolving hk hcalls hpending hinbound hevents hreader => exact .none hevents (by rw [hinbound])

/-- The events of a client are numbers of envelopes, in the order in which they were read. -/
structure Numbered (c : DuplexClient ρ) : Prop where
  order : c.events.Pairwise (· < ·)
  read : ∀ n ∈ c.events, n < c.inbound.length

theorem Numbered.step {l : DuplexLabel ρ} (h : Numbered c) (hstep : c.step l = some c') : Numbered c' := by
  cases step_adds hstep with
  | none hevents hinbound =>
    refine ⟨hevents ▸ h.order, fun n hn => ?_⟩
    rw [hevents] at hn
    exact Nat.lt_of_lt_of_le (h.read n hn) hinbound
  | one hevents hinbound =>
    refine ⟨?_, fun n hn => ?_⟩
    · rw [hevents, List.pairwise_append]
      refine ⟨h.order, List.pairwise_singleton _ _, fun n hn m hm => ?_⟩
      rw [List.mem_singleton] at hm
      exact hm ▸ h.read n hn
    · rw [hevents, List.mem_append, List.mem_singleton] at hn
      rcases hn with hn | rfl
      · have hlt := h.read n hn
        omega
      · omega

/-! ## Each event once -/

def heldEvent : PumpPhase × Bool → Option Nat
  | (.handling event, _) => some event
  | _ => none

/-- The events that a pump has taken and not yet handed over. -/
def inHands (s : PumpedClient ρ) : List Nat := s.pumps.filterMap heldEvent

/-- How often an event is with the pumps or in the queue. -/
def places (s : PumpedClient ρ) (n : Nat) : Nat := s.handled.count n + s.inHands.count n + s.queue.count n

theorem places_pos {n : Nat} : 0 < s.places n ↔ n ∈ s.handled ∨ n ∈ s.inHands ∨ n ∈ s.queue := by
  have hsplit : 0 < s.places n ↔ 0 < s.handled.count n ∨ 0 < s.inHands.count n ∨ 0 < s.queue.count n := by
    unfold places
    omega
  rw [hsplit, List.count_pos_iff, List.count_pos_iff, List.count_pos_iff]

/-- A step of the client: the channel is as it was, or has taken one event more. -/
theorem client_step {label : DuplexLabel ρ} (h : step s (.client label) = some t) :
    s.client.step label = some t.client ∧ t.completed = (s.completed || label.completes) ∧ t.pumps = s.pumps ∧
      t.handled = s.handled ∧
      (t.queue = s.queue ∧ t.written = s.written ∧ (t.client.events = s.client.events ∨ s.completed = true) ∨
        ∃ n, n = s.client.inbound.length ∧ s.completed = false ∧ t.client.events = s.client.events ++ [n] ∧
          t.queue = BoundedQueue.write 128 s.queue n ∧ t.written = s.written ++ [n]) := by
  simp only [step] at h
  cases hclient : s.client.step label with
  | none => rw [hclient] at h; cases h
  | some client =>
    rw [hclient] at h
    cases h
    by_cases hcompleted : s.completed = true
    · have hstay : s.tryWrite (client.events.drop s.client.events.length) = s := if_pos hcompleted
      rw [hstay]
      exact ⟨rfl, rfl, rfl, rfl, .inl ⟨rfl, rfl, .inr hcompleted⟩⟩
    · have hopen : s.completed = false := by simpa using hcompleted
      cases step_adds hclient with
      | none hevents hinbound =>
        have hstay : s.tryWrite (client.events.drop s.client.events.length) = s := by
          rw [hevents, List.drop_length]
          unfold tryWrite
          rw [if_neg hcompleted, List.append_nil]
          rfl
        rw [hstay]
        exact ⟨rfl, rfl, rfl, rfl, .inl ⟨rfl, rfl, .inl hevents⟩⟩
      | one hevents hinbound =>
        have hone : s.tryWrite (client.events.drop s.client.events.length) = { s with
            queue := BoundedQueue.write 128 s.queue s.client.inbound.length
            written := s.written ++ [s.client.inbound.length] } := by
          rw [hevents, List.drop_left]
          exact if_neg hcompleted
        rw [hone]
        exact ⟨rfl, rfl, rfl, rfl, .inr ⟨_, rfl, hopen, hevents, rfl, rfl⟩⟩

/-- **A step of a pump moves events from place to place.** -/
structure Pumps (s t : PumpedClient ρ) : Prop where
  client : t.client = s.client
  written : t.written = s.written
  completed : t.completed = s.completed
  places : ∀ n, t.places n = s.places n
  queue : t.queue.length ≤ s.queue.length

/-- A step that takes nothing and hands nothing over. -/
theorem pumps_of_held {pumps : List (PumpPhase × Bool)}
    (hheld : ∀ n, (pumps.filterMap heldEvent).count n = s.inHands.count n) : Pumps s { s with pumps } where
  client := rfl
  written := rfl
  completed := rfl
  places n := by
    show s.handled.count n + (pumps.filterMap heldEvent).count n + s.queue.count n = _
    rw [hheld]
    rfl
  queue := Nat.le_refl _

theorem pump_step {l : PumpLabel ρ} (hl : ∀ label, l ≠ .client label) (hstep : step s l = some t) : Pumps s t := by
  cases l with
  | client label => exact absurd rfl (hl label)
  | startEventPump =>
    cases hstep
    exact pumps_of_held (Slots.count_snoc_of_none heldEvent s.pumps rfl)
  | cancel i =>
    simp only [step] at hstep
    split at hstep
    · rename_i phase token hp
      cases hstep
      exact pumps_of_held (Slots.count_set_of_eq heldEvent hp (by cases phase <;> rfl))
    · cases hstep
  | wait i =>
    simp only [step] at hstep
    split at hstep
    · rename_i token hp
      split at hstep
      · cases hstep
        exact pumps_of_held (Slots.count_eraseIdx_of_none heldEvent hp rfl)
      split at hstep
      · cases hstep
        exact pumps_of_held (Slots.count_set_of_eq heldEvent hp rfl)
      split at hstep
      · cases hstep
        exact pumps_of_held (Slots.count_eraseIdx_of_none heldEvent hp rfl)
      · cases hstep
    · cases hstep
  | read i =>
    simp only [step] at hstep
    split at hstep
    · rename_i token hp
      split at hstep
      · cases hstep
        exact pumps_of_held (Slots.count_set_of_eq heldEvent hp rfl)
      · rename_i event queue hqueue
        cases hstep
        refine ⟨rfl, rfl, rfl, fun n => ?_, by rw [hqueue]; exact Nat.le_succ _⟩
        have hcount := Slots.count_set heldEvent hp (.handling event, token) n
        have hcons : s.queue.count n = [event].count n + queue.count n := by
          rw [hqueue, ← List.singleton_append, List.count_append]
        simp only [heldEvent, Option.toList_none, Option.toList_some, List.count_nil] at hcount
        show s.handled.count n + ((s.pumps.set i (.handling event, token)).filterMap heldEvent).count n +
          queue.count n = s.handled.count n + (s.pumps.filterMap heldEvent).count n + s.queue.count n
        omega
    · cases hstep
  | handle i =>
    simp only [step] at hstep
    split at hstep
    · rename_i event token hp
      cases hstep
      refine ⟨rfl, rfl, rfl, fun n => ?_, Nat.le_refl _⟩
      have hcount := Slots.count_set heldEvent hp (.reading, token) n
      simp only [heldEvent, Option.toList_none, Option.toList_some, List.count_nil] at hcount
      show (s.handled ++ [event]).count n + ((s.pumps.set i (.reading, token)).filterMap heldEvent).count n +
        s.queue.count n = s.handled.count n + (s.pumps.filterMap heldEvent).count n + s.queue.count n
      rw [List.count_append]
      omega
    · cases hstep

structure Channel (s : PumpedClient ρ) : Prop where
  numbered : Numbered s.client
  written : s.written <+: s.client.events
  whole : s.completed = false → s.written = s.client.events
  once : ∀ n, s.places n ≤ s.written.count n
  bound : s.queue.length ≤ 128

theorem init_channel : (init : PumpedClient ρ).Channel where
  numbered := ⟨List.Pairwise.nil, fun n hn => by cases hn⟩
  written := List.prefix_refl _
  whole _ := rfl
  once n := Nat.le_refl _
  bound := Nat.zero_le _

theorem client_channel (h : s.Channel) {label : DuplexLabel ρ} (hstep : step s (.client label) = some t) :
    t.Channel := by
  obtain ⟨hclient, hcompleted, hpumps, hhandled, hqueue⟩ := client_step hstep
  have hhands : t.inHands = s.inHands := by unfold inHands; rw [hpumps]
  have hopen : t.completed = false → s.completed = false := by
    rw [hcompleted, Bool.or_eq_false_iff]
    exact And.left
  have hgrows : s.client.events <+: t.client.events := by
    cases step_adds hclient with
    | none hevents hinbound => rw [hevents]
    | one hevents hinbound => exact hevents ▸ List.prefix_append _ _
  rcases hqueue with ⟨hqueue, hwritten, hevents⟩ | ⟨n, -, hno, hevents, hqueue, hwritten⟩
  · refine ⟨h.numbered.step hclient, ?_, fun ht => ?_, fun m => ?_, ?_⟩
    · rw [hwritten]
      exact h.written.trans hgrows
    · rcases hevents with hevents | hyes
      · rw [hwritten, hevents]
        exact h.whole (hopen ht)
      · rw [hopen ht] at hyes
        cases hyes
    · unfold places
      rw [hhandled, hhands, hqueue, hwritten]
      exact h.once m
    · rw [hqueue]
      exact h.bound
  · have hwhole := h.whole hno
    refine ⟨h.numbered.step hclient, ?_, fun _ => ?_, fun m => ?_, ?_⟩
    · rw [hwritten, hevents, hwhole]
    · rw [hwritten, hevents, hwhole]
    · have hcount := (@BoundedQueue.write_sublist _ 128 s.queue n).count_le m
      have honce := h.once m
      unfold places at honce ⊢
      rw [hhandled, hhands, hqueue, hwritten, List.count_append]
      rw [List.count_append] at hcount
      omega
    · rw [hqueue]
      exact BoundedQueue.length_write_le (by decide) h.bound n

theorem step_channel (l : PumpLabel ρ) (h : s.Channel) (hstep : step s l = some t) : t.Channel := by
  by_cases hl : ∃ label, l = .client label
  · obtain ⟨label, rfl⟩ := hl
    exact client_channel h hstep
  · have hpump := pump_step (fun label hlabel => hl ⟨label, hlabel⟩) hstep
    refine ⟨hpump.client ▸ h.numbered, ?_, fun ht => ?_, fun n => ?_, hpump.queue.trans h.bound⟩
    · rw [hpump.client, hpump.written]
      exact h.written
    · rw [hpump.client, hpump.written]
      exact h.whole (hpump.completed ▸ ht)
    · rw [hpump.places, hpump.written]
      exact h.once n

theorem Channel.places_le (h : s.Channel) (n : Nat) : s.places n ≤ 1 ∧ (0 < s.places n → n ∈ s.client.events) := by
  have honce := h.once n
  have hcount := h.written.sublist.count_le n
  have hnodup : s.client.events.Nodup := h.numbered.order.imp fun hlt => Nat.ne_of_lt hlt
  have hone := List.nodup_iff_count_le_one.1 hnodup n
  refine ⟨by omega, fun hpos => List.count_pos_iff.1 (by omega)⟩

/-- **Every event reaches the controller once at most**, however many pumps read the channel. -/
theorem events_are_handled_once (labels : List (PumpLabel ρ)) (s : PumpedClient ρ)
    (h : Run.run step init labels = some s) : s.handled.Nodup ∧ ∀ n ∈ s.handled, n ∈ s.client.events := by
  have hs : s.Channel := Run.invariant_all Channel (fun _ l _ hi ht => step_channel l hi ht) init_channel h
  have hplaces : ∀ n, s.handled.count n ≤ s.places n := fun n => by unfold places; omega
  refine ⟨List.nodup_iff_count_le_one.2 fun n => (hplaces n).trans (hs.places_le n).1, fun n hn => ?_⟩
  exact (hs.places_le n).2 (Nat.lt_of_lt_of_le (List.count_pos_iff.2 hn) (hplaces n))

/-- Two events while the pump is at work. -/
def twoEvents : List (PumpLabel Unit) :=
  [.startEventPump, .client (.receive ⟨1, "evt-1", "peer.joined", .null⟩), .wait 0, .read 0,
    .client (.receive ⟨1, "evt-2", "peer.left", .null⟩), .handle 0, .read 0, .handle 0, .read 0]

theorem both_events_are_handled : ∃ s : PumpedClient Unit, Run.run step init twoEvents = some s ∧ s.handled = [0, 1] ∧
    s.handled.Nodup ∧ ∀ n ∈ s.handled, n ∈ s.client.events :=
  ⟨_, rfl, rfl, events_are_handled_once twoEvents _ rfl⟩

/-! ## None is lost -/

theorem events_of_not_receive {l : DuplexLabel ρ} (hl : ∀ envelope, l ≠ .receive envelope) (h : c.step l = some c') :
    c'.events = c.events := by
  cases l with
  | receive envelope => exact absurd rfl (hl envelope)
  | send guid expectedResponseType read =>
    simp only [DuplexClient.step] at h
    split at h <;> cases h <;> rfl
  | sent i | sendFails i error | cancel i | abort i | finish i =>
    simp only [DuplexClient.step, Option.bind_eq_bind, Option.bind_eq_some_iff] at h
    obtain ⟨call, hi, h⟩ := h
    split at h <;> cases h <;> rfl
  | resume i jsonMessage =>
    simp only [DuplexClient.step, Option.bind_eq_bind, Option.bind_eq_some_iff] at h
    obtain ⟨call, hi, h⟩ := h
    split at h
    · obtain ⟨inbound, -, h⟩ := Option.bind_eq_some_iff.1 h
      cases h
      rfl
    · cases h
      rfl
    · cases h
      rfl
    · cases h
  | resolve =>
    simp only [DuplexClient.step] at h
    split at h
    · obtain ⟨call, -, h⟩ := Option.bind_eq_some_iff.1 h
      cases h
      rfl
    · cases h
  | visit k | disposeVisit k =>
    simp only [DuplexClient.step] at h
    split at h
    · obtain ⟨mid, hmid, h⟩ := Option.bind_eq_some_iff.1 h
      obtain ⟨call, -, -, rfl⟩ := DuplexClient.complete_some hmid
      cases h
      rfl
    · cases h
  | readerCanceled | readerFails error | dispose | joined =>
    simp only [DuplexClient.step] at h
    split at h <;> cases h <;> rfl
  | walkEnds | clear =>
    simp only [DuplexClient.step] at h
    split at h
    · split at h <;> cases h
      rfl
    · cases h

/-- An envelope no call waits for. -/
theorem receive_events {envelope : Envelope} (hid : c.pending.lookup envelope.id = none) :
    (c.receive envelope).events = c.events ++ [c.inbound.length] := by
  unfold DuplexClient.receive
  simp only [hid]

theorem receive_events_of_pending {envelope : Envelope} {k : Nat} (hid : c.pending.lookup envelope.id = some k) :
    (c.receive envelope).events = c.events := by
  unfold DuplexClient.receive
  simp only [hid]
  rfl

/-- **No event is lost**: what the reader was to write has come to the controller, or is on its way. -/
def Kept (s : PumpedClient ρ) : Prop := ∀ n ∈ s.client.events, n ∈ s.handled ∨ n ∈ s.inHands ∨ n ∈ s.queue

/-- The reader writes an event only where fewer than 128 wait, to a channel that is not complete. -/
def Roomy (s : PumpedClient ρ) : PumpLabel ρ → Prop
  | .client (.receive envelope) => s.client.reader = .reading → s.client.pending.lookup envelope.id = none →
      s.queue.length < 128 ∧ s.completed = false
  | _ => True

theorem kept_iff : s.Kept ↔ ∀ n ∈ s.client.events, 0 < s.places n := by
  simp only [Kept, places_pos]

/-- A write for which there is room. -/
theorem Kept.roomy (h : s.Kept) {l : PumpLabel ρ} (hl : s.Roomy l) (hstep : step s l = some t) : t.Kept := by
  rw [kept_iff] at h ⊢
  by_cases hclient : ∃ label, l = .client label
  · obtain ⟨label, rfl⟩ := hclient
    obtain ⟨hlabel, -, hpumps, hhandled, hqueue⟩ := client_step hstep
    have hhands : t.inHands = s.inHands := by unfold inHands; rw [hpumps]
    by_cases hreceive : ∃ envelope, label = .receive envelope
    · obtain ⟨envelope, rfl⟩ := hreceive
      have hreading : s.client.reader = .reading := by
        by_contra hno
        simp only [DuplexClient.step] at hlabel
        rw [if_neg hno] at hlabel
        cases hlabel
      have hreceived : s.client.receive envelope = t.client := by
        simp only [DuplexClient.step] at hlabel
        rw [if_pos hreading] at hlabel
        exact Option.some.inj hlabel
      cases hid : s.client.pending.lookup envelope.id with
      | none =>
        obtain ⟨hroom, hopen⟩ := hl hreading hid
        have hevents := receive_events hid
        rw [hreceived] at hevents
        rcases hqueue with ⟨-, -, hsame | hyes⟩ | ⟨n, hn, -, -, hqueue, -⟩
        · rw [hsame] at hevents
          exact absurd hevents.symm (by simp)
        · rw [hopen] at hyes
          cases hyes
        · intro m hm
          rw [hevents, List.mem_append, List.mem_singleton] at hm
          rw [BoundedQueue.write_of_room hroom] at hqueue
          unfold places at h ⊢
          rw [hhandled, hhands, hqueue, List.count_append]
          rcases hm with hm | hm
          · have hpos := h m hm
            omega
          · have hone : [n].count m = 1 := by rw [hm, ← hn]; simp
            omega
      | some k =>
        have hevents := receive_events_of_pending hid
        rw [hreceived] at hevents
        rcases hqueue with ⟨hqueue, -, -⟩ | ⟨n, -, -, hmore, -, -⟩
        · intro m hm
          rw [hevents] at hm
          unfold places at h ⊢
          rw [hhandled, hhands, hqueue]
          exact h m hm
        · rw [hevents] at hmore
          exact absurd hmore.symm (by simp)
    · have hevents := events_of_not_receive (fun envelope he => hreceive ⟨envelope, he⟩) hlabel
      rcases hqueue with ⟨hqueue, -, -⟩ | ⟨n, -, -, hmore, -, -⟩
      · intro m hm
        rw [hevents] at hm
        unfold places at h ⊢
        rw [hhandled, hhands, hqueue]
        exact h m hm
      · rw [hevents] at hmore
        exact absurd hmore.symm (by simp)
  · have hpump := pump_step (fun label hlabel => hclient ⟨label, hlabel⟩) hstep
    intro n hn
    rw [hpump.places]
    exact h n (hpump.client ▸ hn)

/-- A write for which there is none. -/
theorem lost_of_full (hs : s.Channel) {envelope : Envelope} (hreading : s.client.reader = .reading)
    (hid : s.client.pending.lookup envelope.id = none) (hno : ¬ (s.queue.length < 128 ∧ s.completed = false)) :
    ∃ t, step s (.client (.receive envelope)) = some t ∧ ¬ t.Kept := by
  have hlabel : s.client.step (.receive envelope) = some (s.client.receive envelope) := by
    simp only [DuplexClient.step]
    rw [if_pos hreading]
  have hstep : ∃ t, step s (.client (.receive envelope)) = some t := by
    simp only [step, hlabel]
    exact ⟨_, rfl⟩
  obtain ⟨t, hstep⟩ := hstep
  refine ⟨t, hstep, fun hkept => ?_⟩
  rw [kept_iff] at hkept
  obtain ⟨hclient, -, hpumps, hhandled, hqueue⟩ := client_step hstep
  have hhands : t.inHands = s.inHands := by unfold inHands; rw [hpumps]
  obtain hreceived := Option.some.inj (hlabel.symm.trans hclient)
  have hevents := receive_events hid
  rw [hreceived] at hevents
  rcases hqueue with ⟨hqueue, -, -⟩ | ⟨n, hn, hopen, -, hqueue, -⟩
  · -- the channel is complete, and the event is nowhere
    have hpos := hkept s.client.inbound.length (by rw [hevents]; simp)
    have hold : 0 < s.places s.client.inbound.length := by
      unfold places at hpos ⊢
      rwa [hhandled, hhands, hqueue] at hpos
    exact Nat.lt_irrefl _ (hs.numbered.read _ ((hs.places_le _).2 hold))
  · -- the oldest event makes way
    have hfull : 128 ≤ s.queue.length := Nat.not_lt.1 fun hroom => hno ⟨hroom, hopen⟩
    cases hcons : s.queue with
    | nil => rw [hcons] at hfull; simp at hfull
    | cons oldest rest =>
      rw [hcons] at hfull hqueue
      rw [BoundedQueue.write_full hfull] at hqueue
      have hthere : 0 < s.places oldest := by
        rw [places_pos, hcons]
        exact .inr (.inr List.mem_cons_self)
      have hold := (hs.places_le oldest).2 hthere
      have hpos := hkept oldest (by rw [hevents]; exact List.mem_append_left _ hold)
      have hone := (hs.places_le oldest).1
      have hother : [n].count oldest = 0 := by
        refine List.count_eq_zero.2 fun hm => ?_
        rw [List.mem_singleton.1 hm, hn] at hold
        exact Nat.lt_irrefl _ (hs.numbered.read _ hold)
      have hcount : s.queue.count oldest = rest.count oldest + 1 := by rw [hcons]; simp
      unfold places at hpos hone
      rw [hhandled, hhands, hqueue, List.count_append] at hpos
      omega

theorem step_kept_iff (s : PumpedClient ρ) (l : PumpLabel ρ) (hs : s.Channel) (h : s.Kept) :
    s.Roomy l ↔ ∀ t, step s l = some t → t.Kept := by
  refine ⟨fun hl t hstep => h.roomy hl hstep, fun hall => ?_⟩
  by_cases hreceive : ∃ envelope, l = .client (.receive envelope)
  · obtain ⟨envelope, rfl⟩ := hreceive
    intro hreading hid
    by_contra hno
    obtain ⟨t, hstep, hlost⟩ := lost_of_full hs hreading hid hno
    exact hlost (hall t hstep)
  · unfold Roomy
    split
    · rename_i envelope
      exact absurd ⟨envelope, rfl⟩ hreceive
    · trivial

/-- **Events get lost exactly where 128 of them wait**, or where the channel is complete: in a run in which the reader
writes none then, every one of them is with the controller, with a pump or in the channel at any time. -/
theorem no_event_is_lost_iff (labels : List (PumpLabel ρ)) :
    Run.Always step Kept (init : PumpedClient ρ) labels ↔ Run.Along step Roomy init labels :=
  Run.always_iff_along_of Channel Kept (fun _ l _ hs ht => step_channel l hs ht) step_kept_iff labels init_channel
    fun _ hn => absurd hn List.not_mem_nil

/-! ## In order -/

/-- One pump at a time. -/
def OnePump (s : PumpedClient ρ) : PumpLabel ρ → Prop
  | .startEventPump => s.pumps = []
  | _ => True

structure InOrder (s : PumpedClient ρ) : Prop where
  one : s.pumps.length ≤ 1
  delivers : BoundedQueue.Delivers 128 s.written (s.handled ++ s.inHands) s.queue

theorem eq_singleton {p : PumpPhase × Bool} {i : Nat} (hone : s.pumps.length ≤ 1) (hp : s.pumps[i]? = some p) :
    s.pumps = [p] ∧ i = 0 := by
  obtain ⟨hi, hget⟩ := List.getElem?_eq_some_iff.1 hp
  obtain rfl : i = 0 := by omega
  obtain ⟨q, hq⟩ := List.length_eq_one_iff.1 (show s.pumps.length = 1 by omega)
  simp only [hq, List.getElem_cons_zero] at hget
  exact ⟨by rw [hq, hget], rfl⟩

/-- The pump goes on with the event it has, or without one. -/
theorem InOrder.pump (h : s.InOrder) {p q : PumpPhase × Bool} {i : Nat} (hp : s.pumps[i]? = some p)
    (hheld : heldEvent q = heldEvent p) : InOrder { s with pumps := s.pumps.set i q } := by
  obtain ⟨hpumps, rfl⟩ := eq_singleton h.one hp
  have hhands : inHands { s with pumps := s.pumps.set 0 q } = s.inHands := by
    unfold inHands
    rw [hpumps]
    simp only [List.set_cons_zero, List.filterMap_cons, List.filterMap_nil, hheld]
  refine ⟨by rw [List.length_set]; exact h.one, ?_⟩
  rw [hhands]
  exact h.delivers

/-- The pump ends with nothing in its hands. -/
theorem InOrder.ends (h : s.InOrder) {p : PumpPhase × Bool} {i : Nat} (hp : s.pumps[i]? = some p)
    (hheld : heldEvent p = none) : InOrder { s with pumps := s.pumps.eraseIdx i } := by
  obtain ⟨hpumps, rfl⟩ := eq_singleton h.one hp
  have hhands : inHands { s with pumps := s.pumps.eraseIdx 0 } = s.inHands := by
    unfold inHands
    rw [hpumps]
    simp [hheld]
  refine ⟨by rw [hpumps]; simp, ?_⟩
  rw [hhands]
  exact h.delivers

theorem step_inOrder (l : PumpLabel ρ) (h : s.InOrder) (hl : s.OnePump l) (hstep : step s l = some t) : t.InOrder := by
  cases l with
  | client label =>
    obtain ⟨-, -, hpumps, hhandled, hqueue⟩ := client_step hstep
    have hhands : t.inHands = s.inHands := by unfold inHands; rw [hpumps]
    refine ⟨hpumps ▸ h.one, ?_⟩
    rcases hqueue with ⟨hqueue, hwritten, -⟩ | ⟨n, -, -, -, hqueue, hwritten⟩
    · rw [hwritten, hhandled, hhands, hqueue]
      exact h.delivers
    · rw [hwritten, hhandled, hhands, hqueue]
      exact h.delivers.write (by decide) n
  | startEventPump =>
    cases hstep
    have hnone : s.pumps = [] := hl
    refine ⟨by rw [hnone]; simp, ?_⟩
    have hhands : inHands { s with pumps := s.pumps ++ [(.waiting, false)] } = s.inHands := by
      unfold inHands
      rw [hnone]
      rfl
    rw [hhands]
    exact h.delivers
  | cancel i =>
    simp only [step] at hstep
    split at hstep
    · rename_i phase token hp
      cases hstep
      exact h.pump hp (by cases phase <;> rfl)
    · cases hstep
  | wait i =>
    simp only [step] at hstep
    split at hstep
    · rename_i token hp
      split at hstep
      · cases hstep
        exact h.ends hp rfl
      split at hstep
      · cases hstep
        exact h.pump hp rfl
      split at hstep
      · cases hstep
        exact h.ends hp rfl
      · cases hstep
    · cases hstep
  | read i =>
    simp only [step] at hstep
    split at hstep
    · rename_i token hp
      split at hstep
      · cases hstep
        exact h.pump hp rfl
      · rename_i event queue hqueue
        cases hstep
        obtain ⟨hpumps, rfl⟩ := eq_singleton h.one hp
        have hbefore : s.inHands = [] := by
          unfold inHands
          rw [hpumps]
          rfl
        have hafter : inHands { s with queue, pumps := s.pumps.set 0 (.handling event, token) } = [event] := by
          unfold inHands
          rw [hpumps]
          rfl
        have hdelivers := h.delivers
        rw [hbefore, hqueue, List.append_nil] at hdelivers
        refine ⟨by rw [List.length_set]; exact h.one, ?_⟩
        rw [hafter]
        exact hdelivers.read
    · cases hstep
  | handle i =>
    simp only [step] at hstep
    split at hstep
    · rename_i event token hp
      cases hstep
      obtain ⟨hpumps, rfl⟩ := eq_singleton h.one hp
      have hbefore : s.inHands = [event] := by
        unfold inHands
        rw [hpumps]
        rfl
      have hafter : inHands { s with
          handled := s.handled ++ [event], pumps := s.pumps.set 0 (.reading, token) } = [] := by
        unfold inHands
        rw [hpumps]
        rfl
      have hdelivers := h.delivers
      rw [hbefore] at hdelivers
      refine ⟨by rw [List.length_set]; exact h.one, ?_⟩
      rw [hafter, List.append_nil]
      exact hdelivers
    · cases hstep

/-- **One pump keeps the order, and its last 128 events**: as long as no second pump is started beside the first, the
controller sees the events in the order in which they were read, and of those that the channel took before it was
complete none of the last 128 is missing. -/
theorem events_come_in_order (labels : List (PumpLabel ρ)) (s : PumpedClient ρ)
    (hlabels : Run.Along step OnePump init labels) (h : Run.run step init labels = some s) :
    s.handled.Sublist s.client.events ∧ s.client.events.Pairwise (· < ·) ∧
      (s.completed = false →
        s.client.events.drop (s.client.events.length - 128) <:+ s.handled ++ s.inHands ++ s.queue) := by
  have hs : s.Channel := Run.invariant_all Channel (fun _ l _ hi ht => step_channel l hi ht) init_channel h
  have horder : s.InOrder := by
    refine Run.invariant InOrder (fun _ l _ hi hl ht => step_inOrder l hi hl ht) ⟨Nat.zero_le _, ?_⟩ hlabels h
    exact BoundedQueue.Delivers.nil 128
  refine ⟨?_, hs.numbered.order, fun hopen => ?_⟩
  · have hsub := (List.sublist_append_left s.handled s.inHands).trans (List.sublist_append_left _ s.queue)
    exact (hsub.trans horder.delivers.order).trans hs.written.sublist
  · have hrecent := horder.delivers.recent
    rwa [hs.whole hopen] at hrecent

theorem both_events_come_in_order : ∃ s : PumpedClient Unit, Run.run step init twoEvents = some s ∧
    s.handled = [0, 1] ∧ s.handled.Sublist s.client.events ∧ s.client.events.Pairwise (· < ·) ∧
      (s.completed = false →
        s.client.events.drop (s.client.events.length - 128) <:+ s.handled ++ s.inHands ++ s.queue) := by
  refine ⟨_, rfl, rfl, events_come_in_order twoEvents _ ?_ rfl⟩
  exact ⟨rfl, trivial, trivial, trivial, trivial, trivial, trivial, trivial, trivial, trivial⟩

end PumpedClient

end Terracotta
