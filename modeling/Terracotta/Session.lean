import Terracotta.Framing
import Terracotta.Run
import Terracotta.Wire
/-!
# The Helper's request loop (`ipc/session.rs`)

After the handshake `session::run` waits in one `select!` for a frame, for its poll timer and for a room event, and
starts over after each.  The branches that lose are dropped: a `read_frame` that is suspended inside a frame goes with
the bytes it has taken.  `Loop.step` is that loop against a client that writes frames and a transport that delivers
their bytes in any pieces.
-/
namespace Terracotta

inductive SessionOutcome where
  | shutdownRequested | peerDisconnected
deriving DecidableEq

/-- How the handler of a request or of an event ends the loop: with an outcome, or by failing to write. -/
inductive HandlerEnd where
  | returned (outcome : SessionOutcome)
  | failed (error : FrameError)
deriving DecidableEq

/-- Why the loop ended: by a handler, at the end of the stream, or by a `read_frame` that failed. -/
inductive LoopEnd where
  | handler (result : HandlerEnd)
  | disconnected
  | readError (error : FrameError)
deriving DecidableEq

/-- The loop, its client and the transport between them, over envelopes `E`. -/
structure Loop (E : Type) where
  unsent : List UInt8 -- written by the client, still on their way
  arrived : List UInt8 -- arrived, read by nobody
  closed : Bool -- the client has closed its end
  reader : Reader -- the `read_frame` the current `select!` polls
  handled : List E -- the envelopes handed to `handle_request`, oldest first
  ended : Option LoopEnd

inductive LoopLabel where
  | arrive (n : Nat) -- the next `n` bytes arrive
  | close -- the client, having written everything, closes
  | read (result : Option HandlerEnd) -- `read_frame` is polled; a frame it completes is handled with this result
  | tick -- the poll timer fires, and `poll_and_emit` runs
  | event (result : Option HandlerEnd) -- a room event, or the loss of one, is received and handled with this result

/-- The loop at its start, against a client that writes the frames of `bodies`. -/
def Loop.init {E : Type} (bodies : List (List UInt8)) : Loop E :=
  { unsent := Frames.encodeAll bodies, arrived := [], closed := false, reader := .start, handled := [],
    ended := none }

variable {E : Type} (fromSlice : List UInt8 → Option E)

/-- A poll of `read_frame`, and the handling of the frame it may complete. -/
def Loop.read (s : Loop E) (result : Option HandlerEnd) : Loop E :=
  match s.reader.poll s.arrived with
  | (.pending r, rest) =>
    -- nothing is left to read: at the end of the stream the call returns, else it stays suspended
    if s.closed ∧ s.unsent = [] then
      { s with reader := r, arrived := rest, ended := some (match r.endOfStream with
          | .endOfStream => .disconnected
          | e => .readError e) }
    else { s with reader := r, arrived := rest }
  | (.failed e, rest) => { s with reader := .start, arrived := rest, ended := some (.readError e) }
  | (.done body, rest) => match fromSlice body with
    | none => { s with reader := .start, arrived := rest, ended := some (.readError .invalidJson) }
    | some envelope =>
      { s with reader := .start, arrived := rest, handled := s.handled ++ [envelope], ended := result.map .handler }

/-- One step of the loop, its client or the transport. -/
def Loop.step (s : Loop E) (label : LoopLabel) : Option (Loop E) :=
  if s.ended.isSome then none
  else match label with
    | .arrive n => some { s with arrived := s.arrived ++ s.unsent.take n, unsent := s.unsent.drop n }
    | .close => if s.unsent = [] then some { s with closed := true } else none
    | .read result => some (s.read fromSlice result)
    | .tick => some { s with reader := .start }
    | .event result => some { s with reader := .start, ended := result.map .handler }

/-- **No other branch fires while `read_frame` has part of a frame in its buffers.** -/
def Loop.KeepsBytes (s : Loop E) : LoopLabel → Prop
  | .tick | .event _ => s.reader = .start
  | _ => True

instance (s : Loop E) : ∀ label, Decidable (s.KeepsBytes label)
  | .tick | .event _ => inferInstanceAs (Decidable (s.reader = .start))
  | .arrive _ | .close | .read _ => .isTrue trivial

/-- **The requests handled so far are the first frames the client sent**, and of the others not a byte is missing: what
the suspended `read_frame` holds, what has arrived and what is on its way are their encoding, the held part being a
proper part of the next frame. -/
structure Loop.Exact (bodies : List (List UInt8)) (s : Loop E) : Prop where
  inOrder : ∃ read rest, bodies = read ++ rest ∧ read.map fromSlice = s.handled.map some ∧
    (s.ended = none → s.reader.taken ++ (s.arrived ++ s.unsent) = Frames.encodeAll rest ∧
      (∀ b more, rest = b :: more → s.reader.Within b) ∧ (rest = [] → s.reader = .start))
  unbroken : ∀ e, s.ended ≠ some (.readError e)

/-- Bodies the client's writer lets through and the Helper's JSON reader takes. -/
def RequestFrames (bodies : List (List UInt8)) : Prop :=
  ∀ b ∈ bodies, (0 < b.length ∧ b.length ≤ maxFrameSize) ∧ (fromSlice b).isSome = true

variable {fromSlice}

theorem Loop.init_exact (bodies : List (List UInt8)) : Loop.Exact fromSlice bodies (Loop.init (E := E) bodies) where
  inOrder := ⟨[], bodies, rfl, rfl, fun _ => ⟨rfl, fun b _ _ => Reader.start_within b, fun _ => rfl⟩⟩
  unbroken := fun e h => by cases h

theorem handler_ne_readError (result : Option HandlerEnd) (e : FrameError) :
    result.map LoopEnd.handler ≠ some (.readError e) := by
  cases result <;> simp

theorem Loop.read_exact {bodies : List (List UInt8)} (hb : RequestFrames fromSlice bodies) {s : Loop E}
    (hopen : s.ended = none) (h : Loop.Exact fromSlice bodies s) (result : Option HandlerEnd) :
    Loop.Exact fromSlice bodies (s.read fromSlice result) := by
  obtain ⟨⟨read, rest, hbodies, hhandled, hbytes⟩, hunbroken⟩ := h
  obtain ⟨hcons, hwithin, hstart⟩ := hbytes hopen
  unfold Loop.read
  cases rest with
  | nil =>
    -- every frame has been handled: nothing has arrived, so the call stays suspended at its start
    have hnil : s.arrived ++ s.unsent = [] := (List.append_eq_nil_iff.1 hcons).2
    obtain ⟨harr, huns⟩ := List.append_eq_nil_iff.1 hnil
    simp only [harr, Reader.poll, hstart rfl, huns]
    split
    · refine ⟨⟨read, [], hbodies, hhandled, fun h => ?_⟩, fun e h => ?_⟩
      · cases h
      · simp only [Reader.start, Reader.endOfStream, Option.some.injEq] at h
        cases h
    · exact ⟨⟨read, [], hbodies, hhandled, fun _ => ⟨rfl, fun _ _ h => (by cases h), fun _ => rfl⟩⟩,
        fun e => by rw [hopen]; simp⟩
  | cons b more =>
    obtain ⟨hlen, hsome⟩ := hb b (by rw [hbodies]; simp)
    rcases Reader.poll_within hlen (hwithin b more rfl) hcons with ⟨r', hp, hw, ht⟩ | ⟨left, hp, hleft⟩
    · simp only [hp]
      -- part of a frame is missing, so the client cannot have finished
      have huns : s.unsent ≠ [] := by
        intro hu
        have hl := congrArg List.length hcons
        have hr := hw.taken_length
        simp only [hu, List.append_nil, List.length_append, Frames.encodeAll_cons] at hl
        rw [ht, List.length_append] at hr
        omega
      rw [if_neg (fun hc => huns hc.2)]
      refine ⟨⟨read, b :: more, hbodies, hhandled, fun _ => ⟨?_, fun b' more' h => ?_, fun h => (by cases h)⟩⟩,
        hunbroken⟩
      · rw [ht, List.nil_append, List.append_assoc]; exact hcons
      · cases h; exact hw
    · simp only [hp]
      obtain ⟨envelope, he⟩ := Option.isSome_iff_exists.1 hsome
      rw [he]
      exact ⟨⟨read ++ [b], more, by rw [hbodies]; simp, by simp [hhandled, he],
        fun _ => ⟨hleft, fun b' _ _ => Reader.start_within b', fun _ => rfl⟩⟩, handler_ne_readError result⟩

theorem Loop.step_exact {bodies : List (List UInt8)} (hb : RequestFrames fromSlice bodies) (s : Loop E)
    (label : LoopLabel) (t : Loop E) (h : Loop.Exact fromSlice bodies s) (hok : s.KeepsBytes label)
    (hstep : s.step fromSlice label = some t) : Loop.Exact fromSlice bodies t := by
  unfold Loop.step at hstep
  split at hstep
  · cases hstep
  · rename_i hended
    have hopen : s.ended = none := by simpa using hended
    obtain ⟨read, rest, hbodies, hhandled, hbytes⟩ := h.inOrder
    obtain ⟨hcons, hwithin, hstart⟩ := hbytes hopen
    cases label with
    | arrive n =>
      cases hstep
      refine ⟨⟨read, rest, hbodies, hhandled, fun _ => ⟨?_, hwithin, hstart⟩⟩, h.unbroken⟩
      simpa [List.append_assoc, List.take_append_drop] using hcons
    | close =>
      simp only at hstep
      split at hstep
      · cases hstep; exact ⟨⟨read, rest, hbodies, hhandled, hbytes⟩, h.unbroken⟩
      · cases hstep
    | read result =>
      cases hstep
      exact Loop.read_exact hb hopen h result
    | tick =>
      cases hstep
      have hr : s.reader = .start := hok
      exact ⟨⟨read, rest, hbodies, hhandled, fun _ => ⟨hr ▸ hcons, hr ▸ hwithin, fun _ => rfl⟩⟩, h.unbroken⟩
    | event result =>
      cases hstep
      have hr : s.reader = .start := hok
      exact ⟨⟨read, rest, hbodies, hhandled, fun _ => ⟨hr ▸ hcons, hr ▸ hwithin, fun _ => rfl⟩⟩,
        handler_ne_readError result⟩

theorem Loop.Exact.complete {bodies : List (List UInt8)} {s : Loop E} (h : Loop.Exact fromSlice bodies s)
    (hopen : s.ended = none) (huns : s.unsent = []) (harr : s.arrived = []) :
    s.handled.map some = bodies.map fromSlice := by
  obtain ⟨read, rest, hbodies, hhandled, hbytes⟩ := h.inOrder
  obtain ⟨hcons, hwithin, -⟩ := hbytes hopen
  cases rest with
  | nil => rw [← hhandled, hbodies, List.append_nil]
  | cons b more =>
    have hlen := congrArg List.length hcons
    have hpart := (hwithin b more rfl).taken_length
    simp only [harr, huns, List.append_nil, Frames.encodeAll_cons, List.length_append] at hlen
    omega

/-- **Where no other branch of the `select!` fires inside a frame, the loop handles what the client sent**: for all
request frames, all ways their bytes arrive and all interleavings of timer and events with them. -/
theorem handled_are_the_frames_sent (fromSlice : List UInt8 → Option E) (bodies : List (List UInt8))
    (hb : RequestFrames fromSlice bodies) (labels : List LoopLabel) (s : Loop E)
    (hkeep : Run.Along (Loop.step fromSlice) Loop.KeepsBytes (Loop.init bodies) labels)
    (hrun : Run.run (Loop.step fromSlice) (Loop.init bodies) labels = some s) :
    Loop.Exact fromSlice bodies s ∧
      (s.ended = none → s.unsent = [] → s.arrived = [] → s.handled.map some = bodies.map fromSlice) := by
  have h := Run.invariant (Loop.Exact fromSlice bodies) (Loop.step_exact hb) (Loop.init_exact bodies) hkeep hrun
  exact ⟨h, h.complete⟩

/-! ## The branch that goes wrong -/

def statusBytes : List UInt8 :=
  Frames.ascii "\x7b\"protocol\":1,\"id\":\"r1\",\"type\":\"room.status\",\"payload\":\x7b\x7d\x7d"

def statusFromSlice (bytes : List UInt8) : Option Envelope :=
  if bytes = statusBytes then some ⟨1, "r1", "room.status", .obj []⟩ else none

theorem statusBytes_frames : RequestFrames statusFromSlice [statusBytes] := by
  intro b hb
  rw [List.mem_singleton.1 hb]
  decide

/-- A run that meets the condition: the timer fires between two pieces of the frame, before any of it is read, and again
after it is handled. -/
theorem status_request_is_handled :
    ∃ s, Run.run (Loop.step statusFromSlice) (Loop.init [statusBytes])
        [.arrive 10, .tick, .arrive 52, .read none, .tick] = some s ∧
      s.handled.map some = [statusBytes].map statusFromSlice := by
  refine ⟨_, rfl, ?_⟩
  exact (handled_are_the_frames_sent statusFromSlice [statusBytes] statusBytes_frames
    [.arrive 10, .tick, .arrive 52, .read none, .tick] _ (by decide) rfl).2 rfl rfl rfl

/-- **A tick before the last byte of a request loses it**: the loop is open, every byte of the client's one frame has
arrived and been read, and no request was handled. -/
theorem tick_inside_a_frame_loses_it :
    ∃ s, Run.run (Loop.step statusFromSlice) (Loop.init [statusBytes])
        [.arrive 61, .read none, .tick, .arrive 1, .read none] = some s ∧
      s.ended = none ∧ s.unsent = [] ∧ s.arrived = [] ∧ s.handled = [] ∧
      s.handled.map some ≠ [statusBytes].map statusFromSlice := by
  refine ⟨_, rfl, rfl, rfl, rfl, rfl, ?_⟩
  intro h
  exact absurd (congrArg List.length h) (by decide)

end Terracotta
