import Terracotta.Framing
import Terracotta.Wire
import Terracotta.Sessions
/-!
# Streams of frames (`protocol/framing.rs`, `IpcFraming.cs`)

Both programs write a frame as four little-endian bytes of length and a JSON body, and read it with calls that wait for
the bytes they still need.  A stream is the list of the pieces in which its bytes arrive, and ends behind the last one.
The two JSON libraries are parameters: what each writes of an envelope and reads back.
-/
namespace Terracotta

open Json (Value)

/-! ## The readers and the writers -/

/-- What a reading call comes to: a body, a refused length, or the end of the stream inside `reader`. -/
inductive Reading where
  | body (body : List UInt8)
  | failed (error : FrameError)
  | ended (reader : Reader)

/-- A call that waits for its bytes: it takes from each piece what it needs, and leaves the rest. -/
def Reader.drive : Reader → List (List UInt8) → Reading × List (List UInt8)
  | r, [] => (.ended r, [])
  | r, chunk :: chunks => match r.poll chunk with
    | (.pending r, _) => r.drive chunks
    | (.done b, rest) => (.body b, rest :: chunks)
    | (.failed e, rest) => (.failed e, rest :: chunks)

/-- `read_frame`, and what it leaves on the stream. -/
def readFrame (fromSlice : List UInt8 → Option Envelope) (chunks : List (List UInt8)) :
    Except FrameError Envelope × List (List UInt8) :=
  match Reader.start.drive chunks with
  | (.ended r, rest) => (.error r.endOfStream, rest)
  | (.failed e, rest) => (.error e, rest)
  | (.body body, rest) => match fromSlice body with
    | none => (.error .invalidJson, rest)
    | some envelope => (.ok envelope, rest)

/-- `write_frame`: the bytes it puts on the stream.  The length in its error is read when the body is wiped, and wiping
empties it. -/
def writeFrame (toVec : Envelope → List UInt8) (envelope : Envelope) : Except FrameError (List UInt8) :=
  let body := toVec envelope
  if body = [] ∨ maxFrameSize < body.length then .error (.invalidLength 0)
  else .ok (Frames.encode body)

/-- What `JsonSerializer.Deserialize<IpcEnvelope>` hands to the constructor; a parameter without a member is null, zero or
an undefined element. -/
structure IpcFields where
  protocol : Int
  id : Option String
  type : Option String
  payload : Option Value

/-- The reading of an object by `System.Text.Json`, before the constructor runs. -/
inductive Deserialized where
  | malformed -- `JsonException`
  | null
  | fields (fields : IpcFields)

/-- `serde_json` and `System.Text.Json`, on envelopes. -/
structure JsonLibraries where
  toVec : Envelope → List UInt8
  fromSlice : List UInt8 → Option Envelope
  serializeToUtf8Bytes : Envelope → List UInt8
  deserialize : List UInt8 → Deserialized

inductive StreamException where
  | endOfStream
  | helperProtocol (message : String)
  | argument
  | invalidOperation
deriving DecidableEq

/-- The constructor of `IpcEnvelope`; `payload.Clone()` throws on an undefined element. -/
def IpcFields.construct (f : IpcFields) : Except StreamException Envelope :=
  if f.protocol ≤ 0 then .error .argument
  else if isNullOrWhiteSpace f.id then .error .argument
  else if isNullOrWhiteSpace f.type then .error .argument
  else match f.payload with
    | none => .error .invalidOperation
    | some payload => .ok ⟨f.protocol.toNat, f.id.getD "", f.type.getD "", payload⟩

namespace JsonLibraries

variable (json : JsonLibraries)

/-- `IpcFraming.ReadAsync`, and what it leaves on the stream. -/
def readAsync (chunks : List (List UInt8)) : Except StreamException Envelope × List (List UInt8) :=
  match Reader.start.drive chunks with
  | (.ended _, rest) => (.error .endOfStream, rest)
  | (.failed _, rest) => (.error (.helperProtocol "IPC peer sent an invalid frame size."), rest)
  | (.body body, rest) => match json.deserialize body with
    | .malformed => (.error (.helperProtocol "IPC peer sent malformed JSON."), rest)
    | .null => (.error (.helperProtocol "IPC peer sent an empty envelope."), rest)
    | .fields f => (f.construct, rest)

/-- `IpcFraming.WriteAsync`. -/
def writeAsync (envelope : Envelope) : Except StreamException (List UInt8) :=
  let payload := json.serializeToUtf8Bytes envelope
  if payload = [] ∨ maxFrameSize < payload.length then
    .error (.helperProtocol "IPC frame size is outside the allowed range.")
  else .ok (Frames.encode payload)

end JsonLibraries

/-- The two programs. -/
inductive Peer where
  | helper | plugin
deriving DecidableEq

namespace JsonLibraries

variable (json : JsonLibraries)

/-- The JSON encoding of an envelope by one of the programs. -/
def encode : Peer × Envelope → List UInt8
  | (.helper, envelope) => json.toVec envelope
  | (.plugin, envelope) => json.serializeToUtf8Bytes envelope

def write : Peer × Envelope → Option (List UInt8)
  | (.helper, envelope) => (writeFrame json.toVec envelope).toOption
  | (.plugin, envelope) => (json.writeAsync envelope).toOption

/-- Envelopes written one after another, each by one of the programs. -/
def writeAll (written : List (Peer × Envelope)) : Option (List UInt8) := (written.mapM json.write).map List.flatten

end JsonLibraries

/-- `n` calls of a reader in a row, up to the first that fails: what they return, and the failure. -/
def readMany {ε : Type} (read : List (List UInt8) → Except ε Envelope × List (List UInt8)) :
    Nat → List (List UInt8) → List Envelope × Option ε
  | 0, _ => ([], none)
  | n + 1, chunks => match read chunks with
    | (.error e, _) => ([], some e)
    | (.ok envelope, rest) =>
      let (envelopes, e) := readMany read n rest
      (envelope :: envelopes, e)

/-! ## One frame -/

/-- **A frame arrives whole, in whatever pieces**: the call returns its body and leaves what follows. -/
theorem Reader.drive_whole {b more : List UInt8} (hb : 0 < b.length ∧ b.length ≤ maxFrameSize) :
    ∀ {chunks : List (List UInt8)} {r : Reader}, r.Within b → r.taken ++ chunks.flatten = Frames.encode b ++ more →
      ∃ rest, r.drive chunks = (.body b, rest) ∧ rest.flatten = more
  | [], r, hr, he => by
    -- the call holds less than the frame
    have hlen := hr.taken_length
    have := congrArg List.length he
    simp only [List.flatten_nil, List.append_nil, List.length_append] at this
    omega
  | chunk :: chunks, r, hr, he => by
    rw [List.flatten_cons] at he
    rcases Reader.poll_within hb hr he with ⟨r', hp, hw, ht⟩ | ⟨rest, hp, hrest⟩
    · have he' : r'.taken ++ chunks.flatten = Frames.encode b ++ more := by rw [ht, ← he]; simp
      obtain ⟨rest, hd, hrest⟩ := Reader.drive_whole hb hw he'
      exact ⟨rest, by simp only [Reader.drive, hp, hd], hrest⟩
    · exact ⟨rest :: chunks, by simp only [Reader.drive, hp], hrest⟩

/-- **The stream ends inside a frame**: the call ends with all that arrived in its buffers. -/
theorem Reader.drive_cut {b missing : List UInt8} (hb : 0 < b.length ∧ b.length ≤ maxFrameSize) (hm : missing ≠ []) :
    ∀ {chunks : List (List UInt8)} {r : Reader}, r.Within b → r.taken ++ chunks.flatten ++ missing = Frames.encode b →
      ∃ r', r.drive chunks = (.ended r', []) ∧ r'.Within b ∧ r'.taken = r.taken ++ chunks.flatten
  | [], r, hr, _ => ⟨r, rfl, hr, by simp⟩
  | chunk :: chunks, r, hr, he => by
    have he' : r.taken ++ (chunk ++ (chunks.flatten ++ missing)) = Frames.encode b ++ [] := by
      rw [List.append_nil, ← he, List.flatten_cons]
      simp
    rcases Reader.poll_within hb hr he' with ⟨r', hp, hw, ht⟩ | ⟨rest, hp, hrest⟩
    · have he'' : r'.taken ++ chunks.flatten ++ missing = Frames.encode b := by
        rw [ht, ← he, List.flatten_cons]
        simp
      obtain ⟨r'', hd, hw', ht'⟩ := Reader.drive_cut hb hm hw he''
      refine ⟨r'', by simp only [Reader.drive, hp, hd], hw', ?_⟩
      rw [ht', ht, List.flatten_cons]
      simp
    · -- the whole frame would have arrived, with nothing missing
      have hnil := List.append_eq_nil_iff.1 hrest
      exact absurd (List.append_eq_nil_iff.1 hnil.2).2 hm

/-- Where in its frame a stream ended, from the number of bytes that arrived of it. -/
def truncation (n : Nat) : FrameError :=
  if n = 0 then .endOfStream else if n < 4 then .truncatedHeader else .truncatedPayload

theorem Reader.endOfStream_eq {b : List UInt8} : ∀ {r : Reader}, r.Within b → r.endOfStream = truncation r.taken.length
  | .header [], _ => rfl
  | .header (x :: xs), h => by
    have hlt : (Reader.header (x :: xs)).taken.length < 4 := h.1
    have hne : (Reader.header (x :: xs)).taken.length ≠ 0 := Nat.succ_ne_zero _
    rw [truncation, if_neg hne, if_pos hlt]
    rfl
  | .body length got, _ => by
    have hlen : (Reader.body length got).taken.length = 4 + got.length := by simp [Reader.taken]
    rw [hlen, truncation, if_neg (by omega), if_neg (by omega)]
    rfl

/-! ## The round trip -/

/-- The members of the object either program writes of an envelope. -/
def Envelope.fields (e : Envelope) : IpcFields := ⟨e.protocol, some e.id, some e.messageType, some e.payload⟩

/-- The envelopes `IpcEnvelope` admits, of this protocol. -/
structure Envelope.Sound (e : Envelope) : Prop where
  protocol : e.protocol = protocolVersion
  id : isNullOrWhiteSpace (some e.id) = false
  messageType : isNullOrWhiteSpace (some e.messageType) = false

theorem Envelope.Sound.construct {e : Envelope} (h : e.Sound) : e.fields.construct = .ok e := by
  have hprotocol : ¬ e.fields.protocol ≤ 0 := by
    have hp : e.fields.protocol = 1 := congrArg Int.ofNat h.protocol
    omega
  unfold IpcFields.construct
  rw [if_neg hprotocol]
  simp only [Envelope.fields, h.id, h.messageType]
  rfl

namespace JsonLibraries

variable {json : JsonLibraries}

/-- **The two libraries invert each other on an envelope**, and neither writes the empty text. -/
structure Inverts (json : JsonLibraries) (e : Envelope) : Prop where
  fromSlice : ∀ peer, json.fromSlice (json.encode (peer, e)) = some e
  deserialize : ∀ peer, json.deserialize (json.encode (peer, e)) = .fields e.fields
  nonempty : ∀ peer, json.encode (peer, e) ≠ []

/-- What the writers and the readers ask of an envelope and its writer. -/
structure Fits (json : JsonLibraries) (x : Peer × Envelope) : Prop where
  inverts : json.Inverts x.2
  sound : x.2.Sound
  size : (json.encode x).length ≤ maxFrameSize

theorem Fits.length {x : Peer × Envelope} (h : json.Fits x) :
    0 < (json.encode x).length ∧ (json.encode x).length ≤ maxFrameSize :=
  ⟨List.length_pos_of_ne_nil (h.inverts.nonempty x.1), h.size⟩

theorem Fits.write {x : Peer × Envelope} (h : json.Fits x) : json.write x = some (Frames.encode (json.encode x)) := by
  have hfits : ¬ (json.encode x = [] ∨ maxFrameSize < (json.encode x).length) := by
    have hlen := h.length
    rintro (hnil | hlong)
    · exact h.inverts.nonempty x.1 hnil
    · omega
  obtain ⟨peer, e⟩ := x
  cases peer with
  | helper =>
    have hw : writeFrame json.toVec e = .ok (Frames.encode (json.toVec e)) := if_neg hfits
    simp only [JsonLibraries.write, hw]
    rfl
  | plugin =>
    have hw : json.writeAsync e = .ok (Frames.encode (json.serializeToUtf8Bytes e)) := if_neg hfits
    simp only [JsonLibraries.write, hw]
    rfl

/-- The bytes of frames written one after another. -/
def frames (json : JsonLibraries) (written : List (Peer × Envelope)) : List UInt8 :=
  Frames.encodeAll (written.map json.encode)

theorem writeAll_eq : ∀ {written : List (Peer × Envelope)}, (∀ x ∈ written, json.Fits x) →
    json.writeAll written = some (json.frames written)
  | [], _ => rfl
  | x :: written, h => by
    have ih := writeAll_eq (fun y hy => h y (List.mem_cons_of_mem _ hy))
    obtain ⟨rest, hrest, hflat⟩ := Option.map_eq_some_iff.1 ih
    simp only [writeAll, List.mapM_cons, (h x List.mem_cons_self).write, hrest]
    simp only [bind, Option.bind, pure, Option.map_some, List.flatten_cons, hflat]
    rfl

theorem drive_frame {x : Peer × Envelope} (h : json.Fits x) {chunks : List (List UInt8)} {more : List UInt8}
    (hc : chunks.flatten = Frames.encode (json.encode x) ++ more) :
    ∃ rest, Reader.start.drive chunks = (.body (json.encode x), rest) ∧ rest.flatten = more :=
  Reader.drive_whole h.length (Reader.start_within _) hc

/-- **`read_frame` returns the next envelope**, and leaves the bytes behind its frame. -/
theorem readFrame_next {x : Peer × Envelope} (h : json.Fits x) {chunks : List (List UInt8)} {more : List UInt8}
    (hc : chunks.flatten = Frames.encode (json.encode x) ++ more) :
    ∃ rest, readFrame json.fromSlice chunks = (.ok x.2, rest) ∧ rest.flatten = more := by
  obtain ⟨rest, hd, hrest⟩ := drive_frame h hc
  refine ⟨rest, ?_, hrest⟩
  simp only [readFrame, hd]
  rw [show json.fromSlice (json.encode x) = some x.2 from h.inverts.fromSlice x.1]

/-- **So does `ReadAsync`.** -/
theorem readAsync_next {x : Peer × Envelope} (h : json.Fits x) {chunks : List (List UInt8)} {more : List UInt8}
    (hc : chunks.flatten = Frames.encode (json.encode x) ++ more) :
    ∃ rest, json.readAsync chunks = (.ok x.2, rest) ∧ rest.flatten = more := by
  obtain ⟨rest, hd, hrest⟩ := drive_frame h hc
  refine ⟨rest, ?_, hrest⟩
  simp only [readAsync, hd]
  rw [show json.deserialize (json.encode x) = .fields x.2.fields from h.inverts.deserialize x.1]
  simp only [h.sound.construct]

/-- **Reading what was written, up to where the stream ends**: a reader that returns each next envelope returns them all,
and then fails as it fails at the end. -/
theorem readMany_frames {ε : Type} {read : List (List UInt8) → Except ε Envelope × List (List UInt8)} {e : ε}
    {ending : List UInt8} (hend : ∀ chunks : List (List UInt8), chunks.flatten = ending → (read chunks).1 = .error e) :
    ∀ {written : List (Peer × Envelope)},
      (∀ x ∈ written, ∀ chunks more, chunks.flatten = Frames.encode (json.encode x) ++ more →
        ∃ rest, read chunks = (.ok x.2, rest) ∧ rest.flatten = more) →
      ∀ {n : Nat} {chunks : List (List UInt8)}, written.length < n → chunks.flatten = json.frames written ++ ending →
        readMany read n chunks = (written.map Prod.snd, some e)
  | _, _, 0, _, hn, _ => absurd hn (Nat.not_lt_zero _)
  | [], _, n + 1, chunks, _, hc => by
    have hfail := hend chunks hc
    cases hr : read chunks with
    | mk result rest =>
      rw [hr] at hfail
      cases hfail
      simp only [readMany, hr]
      rfl
  | x :: written, hnext, n + 1, chunks, hn, hc => by
    have hc' : chunks.flatten = Frames.encode (json.encode x) ++ (json.frames written ++ ending) := by
      rw [hc, ← List.append_assoc]
      rfl
    obtain ⟨rest, hr, hrest⟩ := hnext x List.mem_cons_self chunks _ hc'
    have ih := readMany_frames hend (fun y hy => hnext y (List.mem_cons_of_mem _ hy)) (Nat.lt_of_succ_lt_succ hn) hrest
    simp only [readMany, hr, ih]
    rfl

/-- At the end of the stream both readers report it. -/
theorem drive_empty {chunks : List (List UInt8)} (h : chunks.flatten = []) :
    Reader.start.drive chunks = (.ended .start, []) := by
  induction chunks with
  | nil => rfl
  | cons chunk chunks ih =>
    obtain ⟨rfl, hrest⟩ := List.append_eq_nil_iff.1 (List.flatten_cons.symm.trans h)
    exact ih hrest

/-- A call that finds only a part of the next frame before the end of the stream. -/
theorem readFrame_part {x : Peer × Envelope} (h : json.Fits x) {part : List UInt8} (hp : part <+: Frames.encode (json.encode x))
    (hlt : part.length < (Frames.encode (json.encode x)).length) {chunks : List (List UInt8)} (hc : chunks.flatten = part) :
    (readFrame json.fromSlice chunks).1 = .error (truncation part.length) := by
  obtain ⟨missing, hmissing⟩ := hp
  have hne : missing ≠ [] := by
    rintro rfl
    rw [List.append_nil] at hmissing
    rw [hmissing] at hlt
    exact absurd hlt (Nat.lt_irrefl _)
  have he : Reader.start.taken ++ chunks.flatten ++ missing = Frames.encode (json.encode x) := by
    rw [hc]
    exact hmissing
  obtain ⟨r, hd, hw, ht⟩ := Reader.drive_cut h.length hne (Reader.start_within _) he
  have htaken : r.taken = part := ht.trans hc
  simp only [readFrame, hd, Reader.endOfStream_eq hw, htaken]

/-- **A proper prefix of the frames is some whole frames and a proper part of the next.** -/
theorem frames_cut : ∀ {written : List (Peer × Envelope)} {cut : List UInt8}, cut <+: json.frames written →
    cut ≠ json.frames written → ∃ whole next rest part, written = whole ++ next :: rest ∧
      cut = json.frames whole ++ part ∧ part <+: Frames.encode (json.encode next) ∧
      part.length < (Frames.encode (json.encode next)).length
  | [], cut, hp, hne => absurd (List.prefix_nil.1 hp) hne
  | x :: written, cut, hp, hne => by
    have hcons : json.frames (x :: written) = Frames.encode (json.encode x) ++ json.frames written := rfl
    rw [hcons] at hp hne
    by_cases hlen : cut.length < (Frames.encode (json.encode x)).length
    · refine ⟨[], x, written, cut, rfl, rfl, ?_, hlen⟩
      exact List.prefix_of_prefix_length_le hp (List.prefix_append _ _) (Nat.le_of_lt hlen)
    · -- the first frame is whole, and what is left is cut off the others
      obtain ⟨tail, rfl⟩ := List.prefix_of_prefix_length_le (List.prefix_append _ _) hp (Nat.not_lt.1 hlen)
      have hp' : tail <+: json.frames written := (List.prefix_append_right_inj _).1 hp
      have hne' : tail ≠ json.frames written := fun h => hne (by rw [h])
      obtain ⟨whole, next, rest, part, hw, ht, hpart, hlt⟩ := frames_cut hp' hne'
      refine ⟨x :: whole, next, rest, part, by rw [hw]; rfl, ?_, hpart, hlt⟩
      rw [ht, ← List.append_assoc]
      rfl

/-- **What was written is what is read**, by either program from either program, in whatever pieces the bytes arrive; and
a stream that ends early gives the frames it has whole, and where in the next one it ended. -/
theorem frames_round_trip (json : JsonLibraries) (written : List (Peer × Envelope))
    (hfits : ∀ x ∈ written, json.Fits x) :
    ∃ bytes, json.writeAll written = some bytes ∧
      (∀ chunks : List (List UInt8), chunks.flatten = bytes → ∀ n, written.length < n →
        readMany (readFrame json.fromSlice) n chunks = (written.map Prod.snd, some .endOfStream) ∧
        readMany json.readAsync n chunks = (written.map Prod.snd, some .endOfStream)) ∧
      ∀ cut, cut <+: bytes → cut ≠ bytes → ∃ whole next rest boundary frame part, written = whole ++ next :: rest ∧
        json.writeAll whole = some boundary ∧ json.write next = some frame ∧ part <+: frame ∧
        part.length < frame.length ∧ cut = boundary ++ part ∧
        ∀ chunks : List (List UInt8), chunks.flatten = cut → ∀ n, whole.length < n →
          readMany (readFrame json.fromSlice) n chunks = (whole.map Prod.snd, some (truncation part.length)) := by
  refine ⟨json.frames written, writeAll_eq hfits, ?_, ?_⟩
  · intro chunks hc n hn
    have hc' : chunks.flatten = json.frames written ++ [] := by rw [hc, List.append_nil]
    have hframe : ∀ rest : List (List UInt8), rest.flatten = [] → (readFrame json.fromSlice rest).1 = .error .endOfStream :=
      fun rest h => by simp only [readFrame, drive_empty h]; rfl
    have hasync : ∀ rest : List (List UInt8), rest.flatten = [] → (json.readAsync rest).1 = .error .endOfStream :=
      fun rest h => by simp only [readAsync, drive_empty h]
    exact ⟨readMany_frames hframe (fun x hx _ _ h => readFrame_next (hfits x hx) h) hn hc',
      readMany_frames hasync (fun x hx _ _ h => readAsync_next (hfits x hx) h) hn hc'⟩
  · intro cut hcut hne
    obtain ⟨whole, next, rest, part, rfl, rfl, hpart, hlt⟩ := frames_cut hcut hne
    have hwhole : ∀ x ∈ whole, json.Fits x := fun x hx => hfits x (List.mem_append_left _ hx)
    have hnext : json.Fits next := hfits next (by simp)
    refine ⟨whole, next, rest, _, _, part, rfl, writeAll_eq hwhole, hnext.write, hpart, hlt, rfl, ?_⟩
    intro chunks hc n hn
    exact readMany_frames (fun _ h => readFrame_part hnext hpart hlt h) (fun x hx _ _ h => readFrame_next (hwhole x hx) h) hn hc

/-- A status request with this id, and its JSON text in both programs. -/
def statusRequest (id : String) : Envelope := ⟨1, id, "room.status", .obj []⟩

def statusText (id : String) : List UInt8 :=
  Frames.ascii ("\x7b\"protocol\":1,\"id\":\"" ++ id ++ "\",\"type\":\"room.status\",\"payload\":\x7b\x7d\x7d")

/-- The two libraries on the status requests `a` and `b`. -/
def statusLibraries : JsonLibraries where
  toVec e := statusText e.id
  fromSlice bytes := if bytes = statusText "a" then some (statusRequest "a")
    else if bytes = statusText "b" then some (statusRequest "b") else none
  serializeToUtf8Bytes e := statusText e.id
  deserialize bytes := if bytes = statusText "a" then .fields (statusRequest "a").fields
    else if bytes = statusText "b" then .fields (statusRequest "b").fields else .malformed

/-- One request written by each program, read by the plugin from one piece and by the Helper from two. -/
theorem two_requests_come_back :
    ∃ bytes, statusLibraries.writeAll [(.helper, statusRequest "a"), (.plugin, statusRequest "b")] = some bytes ∧
      readMany statusLibraries.readAsync 3 [bytes] = ([statusRequest "a", statusRequest "b"], some .endOfStream) ∧
      readMany (readFrame statusLibraries.fromSlice) 3 [bytes.take 7, bytes.drop 7] =
        ([statusRequest "a", statusRequest "b"], some .endOfStream) := by
  have ha : statusLibraries.Fits (.helper, statusRequest "a") :=
    ⟨⟨fun p => by cases p <;> rfl, fun p => by cases p <;> rfl, fun p => by cases p <;> exact nofun⟩,
      ⟨rfl, rfl, rfl⟩, by decide⟩
  have hb : statusLibraries.Fits (.plugin, statusRequest "b") :=
    ⟨⟨fun p => by cases p <;> rfl, fun p => by cases p <;> rfl, fun p => by cases p <;> exact nofun⟩,
      ⟨rfl, rfl, rfl⟩, by decide⟩
  obtain ⟨bytes, hw, hread, -⟩ := frames_round_trip statusLibraries
    [(.helper, statusRequest "a"), (.plugin, statusRequest "b")] (by simp [ha, hb])
  exact ⟨bytes, hw, (hread [bytes] (by simp) 3 (by decide)).2, (hread [bytes.take 7, bytes.drop 7] (by simp) 3 (by decide)).1⟩

end JsonLibraries

end Terracotta
