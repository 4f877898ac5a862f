import Terracotta.Frames
/-!
# Reading a frame (`protocol/framing.rs`)

`read_frame` takes one header byte, the other three, and the body, each into a buffer of its own, and may be suspended
before any of these bytes.  `Reader` is the suspended call, `Reader.feed` one more byte, `Reader.poll` what a poll takes
off the bytes that have arrived.
-/
namespace Terracotta

/-- `MAX_FRAME_SIZE`, `ProtocolVersion.MaximumFrameBytes`. -/
def maxFrameSize : Nat := 1024 * 1024

inductive FrameError where
  | endOfStream
  | truncatedHeader
  | truncatedPayload
  | invalidLength (length : Nat)
  | invalidJson
  | io
deriving DecidableEq

/-- The private buffers of a suspended `read_frame`. -/
inductive Reader where
  | header (got : List UInt8)
  | body (length : Nat) (got : List UInt8)
deriving DecidableEq

def Reader.start : Reader := .header []

/-- What the call has consumed: bytes that are nowhere but in its buffers. -/
def Reader.taken : Reader → List UInt8
  | .header got => got
  | .body length got => Frames.header length ++ got

inductive Progress where
  | pending (reader : Reader)
  | done (body : List UInt8)
  | failed (error : FrameError)
deriving DecidableEq

def Reader.feed (r : Reader) (b : UInt8) : Progress :=
  match r with
  | .header got =>
    let got := got ++ [b]
    if got.length < 4 then .pending (.header got)
    else
      let length := Frames.lengthOf got
      if length = 0 ∨ maxFrameSize < length then .failed (.invalidLength length) else .pending (.body length [])
  | .body length got =>
    let got := got ++ [b]
    if got.length < length then .pending (.body length got) else .done got

/-- A poll: bytes are taken until the frame is complete or refused, or none is left. -/
def Reader.poll : Reader → List UInt8 → Progress × List UInt8
  | r, [] => (.pending r, [])
  | r, b :: bs => match r.feed b with
    | .pending r' => r'.poll bs
    | p => (p, bs)

def Reader.endOfStream : Reader → FrameError
  | .header [] => .endOfStream
  | .header _ => .truncatedHeader
  | .body _ _ => .truncatedPayload

/-! ## Inside a well-formed frame -/

/-- **A call inside the frame of `b`**: its buffers hold a proper part of the frame, cut where the source cuts it. -/
def Reader.Within (b : List UInt8) : Reader → Prop
  | .header got => got.length < 4 ∧ got <+: Frames.header b.length
  | .body length got => length = b.length ∧ got.length < b.length ∧ got <+: b

theorem Reader.start_within (b : List UInt8) : Reader.start.Within b := ⟨by decide, List.nil_prefix⟩

theorem Reader.Within.taken_length {b : List UInt8} {r : Reader} (h : r.Within b) :
    r.taken.length < (Frames.encode b).length := by
  rw [Frames.length_encode]
  cases r with
  | header got => have := h.1; simp only [Reader.taken]; omega
  | body length got => have := h.2.1; simp only [Reader.taken, List.length_append, Frames.length_header]; omega

theorem append_eq_of_prefix {got l : List UInt8} {x : UInt8} {tail more : List UInt8} (hlen : got.length < l.length)
    (he : got ++ x :: tail = l ++ more) :
    got ++ [x] <+: l ∧ (got.length + 1 = l.length → got ++ [x] = l) := by
  have h0 : got ++ [x] <+: l ++ more := ⟨tail, by rw [← he]; simp⟩
  have h1 : got ++ [x] <+: l := List.prefix_of_prefix_length_le h0 (List.prefix_append _ _) (by simp; omega)
  exact ⟨h1, fun h => h1.eq_of_length (by simp [h])⟩

/-- **One byte of a well-formed frame**: the call stays inside it with the byte added, or has it whole. -/
theorem Reader.feed_within {b : List UInt8} {r : Reader} {x : UInt8} {tail more : List UInt8} (h : r.Within b)
    (hb : 0 < b.length ∧ b.length ≤ maxFrameSize) (he : r.taken ++ x :: tail = Frames.encode b ++ more) :
    (∃ r', r.feed x = .pending r' ∧ r'.Within b ∧ r'.taken = r.taken ++ [x]) ∨
      (r.feed x = .done b ∧ tail = more) := by
  cases r with
  | header got =>
    obtain ⟨hlt, -⟩ := h
    have he' : got ++ x :: tail = Frames.header b.length ++ (b ++ more) := by
      rw [← List.append_assoc]; exact he
    obtain ⟨hpx, hfull⟩ := append_eq_of_prefix (by simpa using hlt) he'
    refine Or.inl ?_
    by_cases h4 : (got ++ [x]).length < 4
    · exact ⟨.header (got ++ [x]), by simp only [Reader.feed, if_pos h4], ⟨h4, hpx⟩, rfl⟩
    · have hhdr : got ++ [x] = Frames.header b.length := hfull (by simp at h4 ⊢; omega)
      have hlen : Frames.lengthOf (got ++ [x]) = b.length := by
        rw [hhdr]; exact Frames.lengthOf_header (by have := hb.2; simp only [maxFrameSize] at this; omega)
      refine ⟨.body b.length [], ?_, ⟨rfl, hb.1, List.nil_prefix⟩, ?_⟩
      · simp only [Reader.feed, if_neg h4, hlen]
        rw [if_neg (by omega)]
      · simp only [Reader.taken, List.append_nil]
        exact hhdr.symm
  | body length got =>
    obtain ⟨rfl, hlt, -⟩ := h
    have he' : got ++ x :: tail = b ++ more := by
      simp only [Reader.taken, Frames.encode, List.append_assoc] at he
      exact List.append_cancel_left he
    obtain ⟨hpx, hfull⟩ := append_eq_of_prefix hlt he'
    by_cases hmore : (got ++ [x]).length < b.length
    · refine Or.inl ⟨.body b.length (got ++ [x]), by simp only [Reader.feed, if_pos hmore], ⟨rfl, hmore, hpx⟩, ?_⟩
      simp only [Reader.taken, List.append_assoc]
    · have hall : got ++ [x] = b := hfull (by simp at hmore ⊢; omega)
      refine Or.inr ⟨by simp only [Reader.feed, hall, lt_irrefl, if_false], ?_⟩
      have : b ++ tail = b ++ more := by rw [← he', ← hall]; simp
      exact List.append_cancel_left this

/-- **A poll on the bytes of a well-formed frame and what follows it** takes all that has arrived and stays inside the
frame, or has the frame and leaves what follows. -/
theorem Reader.poll_within {b : List UInt8} (hb : 0 < b.length ∧ b.length ≤ maxFrameSize) {more unsent : List UInt8} :
    ∀ {arrived : List UInt8} {r : Reader}, r.Within b →
      r.taken ++ (arrived ++ unsent) = Frames.encode b ++ more →
      (∃ r', r.poll arrived = (.pending r', []) ∧ r'.Within b ∧ r'.taken = r.taken ++ arrived) ∨
        (∃ rest, r.poll arrived = (.done b, rest) ∧ rest ++ unsent = more)
  | [], r, h, _ => Or.inl ⟨r, rfl, h, by simp⟩
  | x :: arrived, r, h, he => by
    rcases Reader.feed_within h hb he with ⟨r', hf, hw, ht⟩ | ⟨hf, htail⟩
    · have he' : r'.taken ++ (arrived ++ unsent) = Frames.encode b ++ more := by
        rw [ht, ← he]; simp
      simp only [Reader.poll, hf]
      rcases Reader.poll_within hb hw he' with ⟨r'', hp, hw', ht'⟩ | ⟨rest, hp, hrest⟩
      · exact Or.inl ⟨r'', hp, hw', by rw [ht', ht]; simp⟩
      · exact Or.inr ⟨rest, hp, hrest⟩
    · exact Or.inr ⟨arrived, by simp only [Reader.poll, hf], htail⟩

end Terracotta
