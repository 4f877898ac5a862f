import Mathlib.Tactic.Common
import Terracotta.Codec
import Terracotta.Scaffolding
/-!
# The frames of Scaffolding (`scaffolding/protocol.rs`)

A request is the length of its type in one byte, the type, the length of its body in four big-endian bytes, and the body;
a response has a status byte in place of the type.  The readers and the writers check lengths and characters each for
themselves; `Codec.Exact` says that they agree.
-/

namespace Text

/-- `String::from_utf8`. -/
def fromUtf8 (bytes : List UInt8) : Option String := String.fromUTF8? ⟨bytes.toArray⟩

theorem utf8_eq_toByteArray (s : String) : utf8 s.toList = s.toByteArray.data.toList := by
  rw [← String.utf8Encode_toList]
  simp [utf8, List.utf8Encode]

theorem fromUtf8_eq_some {bytes : List UInt8} {s : String} : fromUtf8 bytes = some s ↔ utf8 s.toList = bytes := by
  rw [utf8_eq_toByteArray]
  unfold fromUtf8 String.fromUTF8?
  constructor
  · intro h
    split at h
    · rw [← Option.some.inj h]
      rfl
    · cases h
  · rintro rfl
    exact dif_pos s.isValidUTF8

end Text

namespace Terracotta

open Codec (Exact readMany writeAll)

def maxTypeLength : Nat := 128

def maxBodyLength : Nat := 65536

structure RequestFrame where
  requestType : String
  body : List UInt8
deriving DecidableEq

structure ResponseFrame where
  status : UInt8
  body : List UInt8
deriving DecidableEq

/-! ## Reading -/

def readU8 : List UInt8 → Except ScaffoldingError (UInt8 × List UInt8)
  | [] => .error (.io "unexpected end of file")
  | b :: s => .ok (b, s)

def readExact (n : Nat) (s : List UInt8) : Except ScaffoldingError (List UInt8 × List UInt8) :=
  if s.length < n then .error (.io "early eof") else .ok (s.take n, s.drop n)

/-- The number big-endian bytes denote. -/
def ofBigEndian (bytes : List UInt8) : Nat := bytes.foldl (fun n b => 256 * n + b.toNat) 0

def readU32 (s : List UInt8) : Except ScaffoldingError (Nat × List UInt8) :=
  if s.length < 4 then .error (.io "unexpected end of file") else .ok (ofBigEndian (s.take 4), s.drop 4)

/-- A byte of a request type: `0x21..=0x7e`. -/
def isTypeByte (b : UInt8) : Bool := 0x21 ≤ b && b ≤ 0x7e

def readRequest (s : List UInt8) : Except ScaffoldingError (RequestFrame × List UInt8) := do
  let (typeLength, s) ← readU8 s
  let typeLength := typeLength.toNat
  if typeLength = 0 ∨ maxTypeLength < typeLength then
    .error (.invalidFrame s!"request type length {typeLength} is outside 1..={maxTypeLength}")
  else
    let (requestType, s) ← readExact typeLength s
    if !requestType.all isTypeByte then
      .error (.invalidFrame "request type must be printable ASCII without spaces")
    else
      let (bodyLength, s) ← readU32 s
      if maxBodyLength < bodyLength then
        .error (.invalidFrame s!"request body length {bodyLength} exceeds {maxBodyLength}")
      else
        let (body, s) ← readExact bodyLength s
        match Text.fromUtf8 requestType with
        | none => .error (.invalidFrame "request type is not valid UTF-8")
        | some requestType => .ok (⟨requestType, body⟩, s)

def readResponse (s : List UInt8) : Except ScaffoldingError (ResponseFrame × List UInt8) := do
  let (status, s) ← readU8 s
  let (bodyLength, s) ← readU32 s
  if maxBodyLength < bodyLength then
    .error (.invalidFrame s!"response body length {bodyLength} exceeds {maxBodyLength}")
  else
    let (body, s) ← readExact bodyLength s
    .ok (⟨status, body⟩, s)

/-! ## Writing -/

/-- `write_u32`: four big-endian bytes. -/
def bigEndian (n : Nat) : List UInt8 :=
  [UInt8.ofNat (n / 16777216), UInt8.ofNat (n / 65536), UInt8.ofNat (n / 256), UInt8.ofNat n]

def validateRequestType (requestType : String) : Except ScaffoldingError Unit :=
  let bytes := Text.utf8 requestType.toList
  if bytes = [] ∨ maxTypeLength < bytes.length ∨ !bytes.all isTypeByte then
    .error (.invalidFrame "request type must contain 1 to 128 printable ASCII bytes without spaces")
  else .ok ()

def validateBodyLength (length : Nat) : Except ScaffoldingError Unit :=
  if maxBodyLength < length then .error (.invalidFrame s!"body length {length} exceeds {maxBodyLength}") else .ok ()

def writeRequest (requestType : String) (body : List UInt8) : Except ScaffoldingError (List UInt8) := do
  validateRequestType requestType
  validateBodyLength body.length
  let bytes := Text.utf8 requestType.toList
  return UInt8.ofNat bytes.length :: (bytes ++ (bigEndian body.length ++ body))

def writeResponse (status : UInt8) (body : List UInt8) : Except ScaffoldingError (List UInt8) := do
  validateBodyLength body.length
  return status :: (bigEndian body.length ++ body)

/-! ## The pieces of a frame -/

theorem readU8_ok {s rest : List UInt8} {b : UInt8} : readU8 s = .ok (b, rest) ↔ s = b :: rest := by
  cases s <;> simp [readU8]

theorem readExact_ok {n : Nat} {s bytes rest : List UInt8} :
    readExact n s = .ok (bytes, rest) ↔ bytes.length = n ∧ s = bytes ++ rest := by
  unfold readExact
  constructor
  · intro h
    split at h
    · cases h
    · cases h
      refine ⟨?_, (List.take_append_drop n s).symm⟩
      rw [List.length_take]
      omega
  · rintro ⟨rfl, rfl⟩
    rw [if_neg (by simp), List.take_left, List.drop_left]

@[simp] theorem length_bigEndian (n : Nat) : (bigEndian n).length = 4 := rfl

theorem ofBigEndian_bigEndian {n : Nat} (h : n < 4294967296) : ofBigEndian (bigEndian n) = n := by
  simp only [ofBigEndian, bigEndian, List.foldl_cons, List.foldl_nil, UInt8.toNat_ofNat']
  omega

theorem bigEndian_ofBigEndian {bytes : List UInt8} (h : bytes.length = 4) : bigEndian (ofBigEndian bytes) = bytes := by
  match bytes, h with
  | [a, b, c, d], _ =>
    have ha := a.toNat_lt
    have hb := b.toNat_lt
    have hc := c.toNat_lt
    have hd := d.toNat_lt
    simp only [ofBigEndian, bigEndian, List.foldl_cons, List.foldl_nil, List.cons.injEq, and_true, ← UInt8.toNat_inj,
      UInt8.toNat_ofNat']
    omega

theorem ofBigEndian_lt {bytes : List UInt8} (h : bytes.length = 4) : ofBigEndian bytes < 4294967296 := by
  match bytes, h with
  | [a, b, c, d], _ =>
    have ha := a.toNat_lt
    have hb := b.toNat_lt
    have hc := c.toNat_lt
    have hd := d.toNat_lt
    simp only [ofBigEndian, List.foldl_cons, List.foldl_nil]
    omega

theorem readU32_ok {s rest : List UInt8} {n : Nat} :
    readU32 s = .ok (n, rest) ↔ n < 4294967296 ∧ s = bigEndian n ++ rest := by
  unfold readU32
  constructor
  · intro h
    split at h
    · cases h
    · have hlength : (s.take 4).length = 4 := by
        rw [List.length_take]
        omega
      cases h
      refine ⟨ofBigEndian_lt hlength, ?_⟩
      rw [bigEndian_ofBigEndian hlength, List.take_append_drop]
  · rintro ⟨hn, rfl⟩
    have htake : (bigEndian n ++ rest).take 4 = bigEndian n := by rw [← length_bigEndian n, List.take_left]
    have hdrop : (bigEndian n ++ rest).drop 4 = rest := by rw [← length_bigEndian n, List.drop_left]
    rw [if_neg (by simp), htake, hdrop, ofBigEndian_bigEndian hn]

theorem validateRequestType_ok {requestType : String} {u : Unit} : validateRequestType requestType = .ok u ↔
    Text.utf8 requestType.toList ≠ [] ∧ (Text.utf8 requestType.toList).length ≤ maxTypeLength ∧
      (Text.utf8 requestType.toList).all isTypeByte = true := by
  unfold validateRequestType
  simp only
  split
  · rename_i h
    refine ⟨fun h' => (by cases h'), fun ⟨hne, hlength, hall⟩ => ?_⟩
    rcases h with h | h | h
    · exact absurd h hne
    · omega
    · rw [hall] at h
      cases h
  · rename_i h
    simp only [not_or, Bool.not_eq_true, Bool.not_eq_false', Nat.not_lt] at h
    exact ⟨fun _ => h, fun _ => rfl⟩

theorem validateBodyLength_ok {length : Nat} {u : Unit} : validateBodyLength length = .ok u ↔ length ≤ maxBodyLength := by
  unfold validateBodyLength
  split
  · exact ⟨fun h => (by cases h), fun h => by omega⟩
  · exact ⟨fun _ => by omega, fun _ => rfl⟩

/-! ## Requests and responses -/

/-- A request the protocol allows: a type of 1 to 128 bytes in `0x21..=0x7e` and a body of at most 65536. -/
structure RequestFrame.Valid (request : RequestFrame) : Prop where
  nonempty : Text.utf8 request.requestType.toList ≠ []
  typeLength : (Text.utf8 request.requestType.toList).length ≤ maxTypeLength
  typeBytes : (Text.utf8 request.requestType.toList).all isTypeByte = true
  bodyLength : request.body.length ≤ maxBodyLength

def RequestFrame.write (request : RequestFrame) : Except ScaffoldingError (List UInt8) :=
  writeRequest request.requestType request.body

def ResponseFrame.write (response : ResponseFrame) : Except ScaffoldingError (List UInt8) :=
  writeResponse response.status response.body

def RequestFrame.bytes (request : RequestFrame) : List UInt8 :=
  let bytes := Text.utf8 request.requestType.toList
  UInt8.ofNat bytes.length :: (bytes ++ (bigEndian request.body.length ++ request.body))

theorem write_request_ok {request : RequestFrame} {bytes : List UInt8} :
    request.write = .ok bytes ↔ request.Valid ∧ bytes = request.bytes := by
  unfold RequestFrame.write writeRequest
  constructor
  · intro h
    cases htype : validateRequestType request.requestType with
    | error e => rw [htype] at h; cases h
    | ok u =>
      cases hbody : validateBodyLength request.body.length with
      | error e => rw [htype, hbody] at h; cases h
      | ok v =>
        rw [htype, hbody] at h
        obtain ⟨hne, hlength, hall⟩ := validateRequestType_ok.1 htype
        cases h
        exact ⟨⟨hne, hlength, hall, validateBodyLength_ok.1 hbody⟩, rfl⟩
  · rintro ⟨hvalid, rfl⟩
    have htype : validateRequestType request.requestType = .ok () :=
      validateRequestType_ok.2 ⟨hvalid.nonempty, hvalid.typeLength, hvalid.typeBytes⟩
    have hbody : validateBodyLength request.body.length = .ok () := validateBodyLength_ok.2 hvalid.bodyLength
    rw [htype, hbody]
    rfl

/-- **A request is read exactly where it was written.** -/
theorem request_exact : Exact readRequest RequestFrame.write := by
  intro s request rest
  constructor
  · intro h
    unfold readRequest at h
    simp only [bind, Except.bind] at h
    split at h
    · cases h
    rename_i head hhead
    obtain ⟨typeLength, s1⟩ := head
    obtain rfl := readU8_ok.1 hhead
    simp only at h
    split at h
    · cases h
    rename_i hlength
    split at h
    · cases h
    rename_i typed htyped
    obtain ⟨type, s2⟩ := typed
    obtain ⟨htypeLength, rfl⟩ := readExact_ok.1 htyped
    simp only at h
    split at h
    · cases h
    rename_i hbytes
    split at h
    · cases h
    rename_i counted hcounted
    obtain ⟨bodyLength, s3⟩ := counted
    obtain ⟨-, rfl⟩ := readU32_ok.1 hcounted
    simp only at h
    split at h
    · cases h
    rename_i hbody
    split at h
    · cases h
    rename_i bodied hbodied
    obtain ⟨body, s4⟩ := bodied
    obtain ⟨hbodyLength, rfl⟩ := readExact_ok.1 hbodied
    simp only at h
    split at h
    · cases h
    rename_i text htext
    cases h
    have hutf8 := Text.fromUtf8_eq_some.1 htext
    refine ⟨_, write_request_ok.2 ⟨⟨?_, ?_, ?_, ?_⟩, rfl⟩, ?_⟩
    · rw [hutf8]
      rintro rfl
      simp only [List.length_nil] at htypeLength
      omega
    · rw [hutf8]
      omega
    · rw [hutf8]
      simpa using hbytes
    · simp only
      omega
    · simp only [RequestFrame.bytes, hutf8, htypeLength, hbodyLength]
      simp
  · rintro ⟨bytes, hwrite, rfl⟩
    obtain ⟨hvalid, rfl⟩ := write_request_ok.1 hwrite
    obtain ⟨hne, hlength, hall, hbody⟩ := hvalid
    have hcount : (UInt8.ofNat (Text.utf8 request.requestType.toList).length).toNat =
        (Text.utf8 request.requestType.toList).length := by
      rw [UInt8.toNat_ofNat']
      unfold maxTypeLength at hlength
      omega
    have hpos : (Text.utf8 request.requestType.toList).length ≠ 0 := fun h => hne (List.length_eq_zero_iff.1 h)
    have hbound : request.body.length < 4294967296 := by
      unfold maxBodyLength at hbody
      omega
    have htext : Text.fromUtf8 (Text.utf8 request.requestType.toList) = some request.requestType :=
      Text.fromUtf8_eq_some.2 rfl
    unfold readRequest RequestFrame.bytes
    simp only [List.cons_append, List.append_assoc, bind, Except.bind]
    rw [readU8_ok.2 rfl]
    simp only [hcount]
    rw [if_neg (by omega), readExact_ok.2 ⟨rfl, rfl⟩]
    simp only [hall, Bool.not_true, Bool.false_eq_true, if_false]
    rw [readU32_ok.2 ⟨hbound, rfl⟩]
    simp only
    rw [if_neg (by omega), readExact_ok.2 ⟨rfl, rfl⟩]
    simp only [htext]

theorem write_response_ok {response : ResponseFrame} {bytes : List UInt8} : response.write = .ok bytes ↔
    response.body.length ≤ maxBodyLength ∧
      bytes = response.status :: (bigEndian response.body.length ++ response.body) := by
  unfold ResponseFrame.write writeResponse
  constructor
  · intro h
    cases hbody : validateBodyLength response.body.length with
    | error e => rw [hbody] at h; cases h
    | ok u =>
      rw [hbody] at h
      cases h
      exact ⟨validateBodyLength_ok.1 hbody, rfl⟩
  · rintro ⟨hbody, rfl⟩
    have hok : validateBodyLength response.body.length = .ok () := validateBodyLength_ok.2 hbody
    rw [hok]
    rfl

theorem response_exact : Exact readResponse ResponseFrame.write := by
  intro s response rest
  constructor
  · intro h
    unfold readResponse at h
    simp only [bind, Except.bind] at h
    split at h
    · cases h
    rename_i head hhead
    obtain ⟨status, s1⟩ := head
    obtain rfl := readU8_ok.1 hhead
    simp only at h
    split at h
    · cases h
    rename_i counted hcounted
    obtain ⟨bodyLength, s2⟩ := counted
    obtain ⟨-, rfl⟩ := readU32_ok.1 hcounted
    simp only at h
    split at h
    · cases h
    rename_i hbody
    split at h
    · cases h
    rename_i bodied hbodied
    obtain ⟨body, s3⟩ := bodied
    obtain ⟨hbodyLength, rfl⟩ := readExact_ok.1 hbodied
    cases h
    refine ⟨_, write_response_ok.2 ⟨by simp only; omega, rfl⟩, ?_⟩
    simp only [hbodyLength]
    simp
  · rintro ⟨bytes, hwrite, rfl⟩
    obtain ⟨hbody, rfl⟩ := write_response_ok.1 hwrite
    have hbound : response.body.length < 4294967296 := by
      unfold maxBodyLength at hbody
      omega
    unfold readResponse
    simp only [List.cons_append, List.append_assoc, bind, Except.bind]
    rw [readU8_ok.2 rfl]
    simp only
    rw [readU32_ok.2 ⟨hbound, rfl⟩]
    simp only
    rw [if_neg (by omega), readExact_ok.2 ⟨rfl, rfl⟩]

/-- A length that is too large stays so, whatever comes behind it. -/
theorem readResponse_invalid_append {s : List UInt8} {text : String} (h : readResponse s = .error (.invalidFrame text))
    (more : List UInt8) : readResponse (s ++ more) = .error (.invalidFrame text) := by
  unfold readResponse at h ⊢
  simp only [bind, Except.bind] at h ⊢
  cases s with
  | nil => cases h
  | cons status s =>
    simp only [readU8, List.cons_append] at h ⊢
    cases hcounted : readU32 s with
    | error e =>
      rw [hcounted] at h
      unfold readU32 at hcounted
      split at hcounted
      · cases hcounted
        cases h
      · cases hcounted
    | ok counted =>
      obtain ⟨bodyLength, rest⟩ := counted
      obtain ⟨hlt, rfl⟩ := readU32_ok.1 hcounted
      have hagain : readU32 (bigEndian bodyLength ++ rest ++ more) = .ok (bodyLength, rest ++ more) :=
        readU32_ok.2 ⟨hlt, List.append_assoc _ _ _⟩
      rw [hcounted] at h
      rw [hagain]
      simp only at h ⊢
      split
      · rename_i hlarge
        rw [if_pos hlarge] at h
        exact h
      · rename_i hsmall
        rw [if_neg hsmall] at h
        cases hbody : readExact bodyLength rest with
        | error e =>
          rw [hbody] at h
          unfold readExact at hbody
          split at hbody
          · cases hbody
            cases h
          · cases hbody
        | ok bodied =>
          rw [hbody] at h
          cases h

/-- **A part of a response is an end too early.** -/
theorem readResponse_part {response : ResponseFrame} {p q : List UInt8} (hw : response.write = .ok (p ++ q)) (hq : q ≠ []) :
    ∃ e, readResponse p = .error (.io e) := by
  cases hread : readResponse p with
  | ok read => exact absurd hread (response_exact.not_ok_of_prefix hw hq)
  | error e =>
    cases e with
    | io e => exact ⟨e, rfl⟩
    | invalidFrame text =>
      have hwhole : readResponse (p ++ q) = .ok (response, []) :=
        (response_exact _ _ _).2 ⟨_, hw, (List.append_nil _).symm⟩
      rw [readResponse_invalid_append hread q] at hwhole
      cases hwhole

/-- **The Scaffolding codec**: the concatenation of written requests or responses reads back as the same list and no byte
more is taken; what is read re-encodes to the bytes that were taken; and a request is read exactly from a stream that
begins with a written one. -/
theorem scaffolding_frames_round_trip :
    (∀ (requests : List RequestFrame) (rest : List UInt8), (∀ request ∈ requests, request.Valid) →
      ∃ bytes, writeAll RequestFrame.write requests = .ok bytes ∧
        readMany readRequest requests.length (bytes ++ rest) = .ok (requests, rest)) ∧
    (∀ (responses : List ResponseFrame) (rest : List UInt8),
      (∀ response ∈ responses, response.body.length ≤ maxBodyLength) →
        ∃ bytes, writeAll ResponseFrame.write responses = .ok bytes ∧
          readMany readResponse responses.length (bytes ++ rest) = .ok (responses, rest)) ∧
    (∀ (s rest : List UInt8) (request : RequestFrame), readRequest s = .ok (request, rest) →
      ∃ bytes, request.write = .ok bytes ∧ s = bytes ++ rest) ∧
    (∀ (s rest : List UInt8) (response : ResponseFrame), readResponse s = .ok (response, rest) →
      ∃ bytes, response.write = .ok bytes ∧ s = bytes ++ rest) ∧
    ∀ s : List UInt8, (∃ request rest, readRequest s = .ok (request, rest)) ↔
      ∃ (request : RequestFrame) (bytes rest : List UInt8), request.Valid ∧ request.write = .ok bytes ∧
        s = bytes ++ rest := by
  refine ⟨fun requests rest hvalid => ?_, fun responses rest hvalid => ?_, fun s rest request => (request_exact s _ rest).1,
    fun s rest response => (response_exact s _ rest).1, fun s => ?_⟩
  · obtain ⟨bytes, hbytes⟩ := Codec.writeAll_ok fun request hr => ⟨_, write_request_ok.2 ⟨hvalid request hr, rfl⟩⟩
    exact ⟨bytes, hbytes, request_exact.readMany_writeAll rest hbytes⟩
  · obtain ⟨bytes, hbytes⟩ := Codec.writeAll_ok fun response hr => ⟨_, write_response_ok.2 ⟨hvalid response hr, rfl⟩⟩
    exact ⟨bytes, hbytes, response_exact.readMany_writeAll rest hbytes⟩
  · rw [request_exact.reads_iff]
    constructor
    · rintro ⟨request, bytes, rest, hwrite, hs⟩
      exact ⟨request, bytes, rest, (write_request_ok.1 hwrite).1, hwrite, hs⟩
    · rintro ⟨request, bytes, rest, -, hwrite, hs⟩
      exact ⟨request, bytes, rest, hwrite, hs⟩

/-- Two requests and a stray byte behind them. -/
theorem pings_come_back :
    let requests : List RequestFrame := [⟨"c:ping", [104, 101, 108, 108, 111]⟩, ⟨"c:server_port", []⟩]
    ∃ bytes, writeAll RequestFrame.write requests = .ok bytes ∧
      readMany readRequest requests.length (bytes ++ [7]) = .ok (requests, [7]) := by
  intro requests
  refine scaffolding_frames_round_trip.1 requests [7] fun request hr => ?_
  simp only [requests, List.mem_cons, List.not_mem_nil, or_false] at hr
  rcases hr with rfl | rfl
  · exact ⟨by decide, by decide, by decide, by decide⟩
  · exact ⟨by decide, by decide, by decide, by decide⟩

end Terracotta
