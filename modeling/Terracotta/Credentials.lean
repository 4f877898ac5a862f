import Terracotta.RoomInvariant
import Terracotta.JsonText
/-!
# Room credentials and mesh endpoints (`network/credentials.rs`, `network/mesh.rs`)

Everything two Helpers need to find each other is derived from the room code alone, and the machine id of a player from
its identity.  SHA-256 and its HMAC are parameters.
-/
namespace Terracotta

open Net (SocketAddr)

/-- What the crates `sha2` and `hmac` compute. -/
structure Crypto where
  sha256 : List UInt8 → Vector UInt8 32
  hmacSha256 : List UInt8 → List UInt8 → Vector UInt8 32

/-! ## Identities -/

def hexDigit (n : Nat) : Char := "0123456789abcdef".toList.getD n '0'

def hexEncode (bytes : List UInt8) : List Char :=
  bytes.flatMap (fun byte => [hexDigit (byte.toNat / 16), hexDigit (byte.toNat % 16)])

def machineIdFromIdentity (crypto : Crypto) (identity : List UInt8) : String :=
  String.ofList (hexEncode ((crypto.sha256 identity).toList.take 16))

theorem length_hexEncode : ∀ bytes : List UInt8, (hexEncode bytes).length = 2 * bytes.length
  | [] => rfl
  | b :: bytes => by
    have ih := length_hexEncode bytes
    unfold hexEncode at ih ⊢
    rw [List.flatMap_cons, List.length_append, ih]
    simp only [List.length_cons, List.length_nil]
    omega

/-- The digits `hex_encode` writes. -/
theorem hexDigit_mem {n : Nat} (h : n < 16) : hexDigit n ∈ "0123456789abcdef".toList := by
  interval_cases n <;> decide

theorem hexEncode_digits {bytes : List UInt8} {c : Char} (h : c ∈ hexEncode bytes) : c ∈ "0123456789abcdef".toList := by
  obtain ⟨byte, -, hc⟩ := List.mem_flatMap.1 h
  have hlt : byte.toNat < 256 := byte.toNat_lt
  simp only [List.mem_cons, List.not_mem_nil, or_false] at hc
  rcases hc with rfl | rfl
  · exact hexDigit_mem (by omega)
  · exact hexDigit_mem (by omega)

theorem machineId_toList (crypto : Crypto) (identity : List UInt8) :
    (machineIdFromIdentity crypto identity).toList = hexEncode ((crypto.sha256 identity).toList.take 16) :=
  String.toList_ofList

theorem length_machineId (crypto : Crypto) (identity : List UInt8) :
    (machineIdFromIdentity crypto identity).toList.length = 32 := by
  rw [machineId_toList, length_hexEncode, List.length_take, Vector.length_toList]
  rfl

/-! ## Rooms -/

/-- `normalize_room_code` of `network/credentials.rs`, a copy of the one of the room service. -/
def Credentials.normalizeRoomCode (value : String) : Except RoomError String :=
  let compact := compactRoomCode value.toList
  if Text.utf8Len compact ≠ 12 ∨ !compact.all Char.isAlphanum then
    .error ⟨"room.invalid-code", "The room code must contain three groups of four ASCII letters or digits.", false⟩
  else .ok (String.ofList (formatRoomCode compact))

/-- The characters of the bits above the lowest `bits % 5`, five bits each. -/
def base32Drain (value bits : Nat) : List Char × Nat :=
  if 5 ≤ bits then
    let (rest, left) := base32Drain value (bits - 5)
    ("abcdefghijklmnopqrstuvwxyz234567".toList.getD ((value >>> (bits - 5)) % 32) 'a' :: rest, left)
  else ([], bits)
termination_by bits

/-- `network_name_for`; `value` is a `u32`. -/
def networkNameFor (crypto : Crypto) (compact : List Char) : String :=
  let (encoded, value, bits) := ((crypto.sha256 (Text.utf8 compact)).toList.take 8).foldl
    (fun (encoded, value, bits) byte =>
      let value := (value * 256 + byte.toNat) % 4294967296
      let (chars, bits) := base32Drain value (bits + 8)
      (encoded ++ chars, value, bits)) (([] : List Char), 0, 0)
  let encoded :=
    if 0 < bits then encoded ++ ["abcdefghijklmnopqrstuvwxyz234567".toList.getD ((value <<< (5 - bits)) % 32) 'a']
    else encoded
  String.ofList ("tc-".toList ++ encoded.take 10)

/-- `network_secret_for`, under `ROOM_SECRET_ROOT`. -/
def networkSecretFor (crypto : Crypto) (compact : List Char) : String :=
  String.ofList (hexEncode
    (crypto.hmacSha256 (Text.utf8 "cn.pcln.terracotta.room.v1".toList) (Text.utf8 compact)).toList)

structure RoomCredentials where
  roomCode : String
  networkName : String
  networkSecret : String
deriving DecidableEq

namespace RoomCredentials

def fromRoomCode (crypto : Crypto) (roomCode : String) : Except RoomError RoomCredentials := do
  let roomCode ← Credentials.normalizeRoomCode roomCode
  let compact := compactRoomCode roomCode.toList
  return ⟨roomCode, networkNameFor crypto compact, networkSecretFor crypto compact⟩

/-- `generate`, from the twelve bytes the system gives, if it gives any. -/
def generate (crypto : Crypto) (material : Option (Vector UInt8 12)) : Except RoomError RoomCredentials :=
  match material with
  | none => .error ⟨"room.entropy-unavailable", "The system random number generator is unavailable.", true⟩
  | some material =>
    let compact := material.toList.map (fun byte => "ABCDEFGHJKLMNPQRSTUVWXYZ23456789".toList.getD (byte.toNat % 32) 'A')
    fromRoomCode crypto (String.ofList (formatRoomCode compact))

end RoomCredentials

/-- An endpoint on 127.0.0.1. -/
def loopback (port : Nat) : SocketAddr := ⟨.v4 127 0 0 1, port, 0⟩

structure MeshEndpoints where
  scaffoldingPort : Nat
  minecraftPort : Nat
  memberLocalScaffoldingPort : Nat
  memberLocalMinecraftPort : Nat
deriving DecidableEq

/-- `u16::from_be_bytes` of two bytes of a digest. -/
def digestWord (digest : Vector UInt8 32) (i : Nat) : Nat :=
  256 * (digest.toList.getD i 0).toNat + (digest.toList.getD (i + 1) 0).toNat

namespace MeshEndpoints

def fromRoomCode (crypto : Crypto) (roomCode : String) : MeshEndpoints :=
  let digest := crypto.sha256 (Text.utf8 (compactRoomCode roomCode.toList))
  let a := digestWord digest 0
  let b := digestWord digest 2
  ⟨41000 + a % 9000, 51000 + b % 9000, 42000 + a % 9000, 52000 + b % 9000⟩

def memberLocalScaffoldingAddr (e : MeshEndpoints) : SocketAddr := loopback e.memberLocalScaffoldingPort

def memberLocalMinecraftAddr (e : MeshEndpoints) : SocketAddr := loopback e.memberLocalMinecraftPort

end MeshEndpoints

/-- `rpc_portal_for_room`. -/
def rpcPortalForRoom (crypto : Crypto) (roomCode : String) : SocketAddr :=
  loopback (19000 + digestWord (crypto.sha256 (Text.utf8 roomCode.toList)) 0 % 1000)

/-! ## What the room service accepts -/

theorem isCodeChar_facts {c : Char} (h : isCodeChar c = true) :
    c ≠ '-' ∧ c ≠ ' ' ∧ c.toUpper = c ∧ c.isAlphanum = true := by
  have hrange : (65 ≤ c.val.toNat ∧ c.val.toNat ≤ 90) ∨ (48 ≤ c.val.toNat ∧ c.val.toNat ≤ 57) := by
    simpa [isCodeChar, Char.isUpper, Char.isDigit, UInt32.le_iff_toNat_le] using h
  have hne : ∀ d : Char, d.val.toNat < 48 → c ≠ d := by
    rintro d hd rfl
    omega
  refine ⟨hne '-' (by decide), hne ' ' (by decide), ?_, ?_⟩
  · unfold Char.toUpper
    rw [dif_neg]
    rintro ⟨hlow, -⟩
    have hlow : 97 ≤ c.val.toNat := UInt32.le_iff_toNat_le.1 hlow
    omega
  · unfold isCodeChar at h
    unfold Char.isAlphanum Char.isAlpha
    cases hu : c.isUpper <;> simp_all

theorem compact_of_code {s : List Char} (h : ∀ c ∈ s, isCodeChar c = true) : compactRoomCode s = s := by
  have hkeep : s.filter (fun c => c ≠ '-' ∧ c ≠ ' ') = s := by
    refine List.filter_eq_self.2 fun c hc => ?_
    obtain ⟨h1, h2, -⟩ := isCodeChar_facts (h c hc)
    exact decide_eq_true ⟨h1, h2⟩
  have hupper : s.map Char.toUpper = s := by
    refine (List.map_congr_left fun c hc => ?_).trans (List.map_id s)
    exact (isCodeChar_facts (h c hc)).2.2.1
  unfold compactRoomCode
  rw [hkeep, hupper]

theorem compact_append (s t : List Char) : compactRoomCode (s ++ t) = compactRoomCode s ++ compactRoomCode t := by
  unfold compactRoomCode
  rw [List.filter_append, List.map_append]

theorem compact_hyphen (s : List Char) : compactRoomCode ('-' :: s) = compactRoomCode s := by
  unfold compactRoomCode
  rw [List.filter_cons_of_neg (by decide)]

/-- Compacting takes the hyphens of a code out again. -/
theorem compact_grouped {a b c : List Char} (h : ∀ x ∈ a ++ b ++ c, isCodeChar x = true) :
    compactRoomCode (a ++ '-' :: b ++ '-' :: c) = a ++ b ++ c := by
  have hpart : ∀ s : List Char, s ⊆ a ++ b ++ c → compactRoomCode s = s := by
    intro s hs
    exact compact_of_code fun x hx => h x (hs hx)
  rw [List.append_assoc, List.cons_append, compact_append, compact_hyphen, compact_append, compact_hyphen,
    hpart a (by simp), hpart b (by simp), hpart c (by simp), List.append_assoc]

/-- **A canonical code is its own normal form.** -/
theorem normalizeRoomCode_canonical {code : String} (h : CanonicalRoomCode code) : normalizeRoomCode code = .ok code := by
  obtain ⟨a, b, c, ha, hb, hc, hchars, hcode⟩ := h
  have hcompact : compactRoomCode code.toList = a ++ b ++ c := by rw [hcode, compact_grouped hchars]
  have hall : ∀ x ∈ a ++ b ++ c, x.isAlphanum = true := fun x hx => (isCodeChar_facts (hchars x hx)).2.2.2
  have hlen : Text.utf8Len (a ++ b ++ c) = 12 := by
    rw [utf8Len_of_alphanum hall]
    simp only [List.length_append]
    omega
  have hformat : formatRoomCode (a ++ b ++ c) = code.toList := by
    have h1 : (a ++ b ++ c).take 4 = a := by rw [List.append_assoc, ← ha, List.take_left]
    have h2 : (a ++ b ++ c).drop 4 = b ++ c := by rw [List.append_assoc, ← ha, List.drop_left]
    have h3 : (b ++ c).take 4 = b := by rw [← hb, List.take_left]
    have h4 : (a ++ b ++ c).drop 8 = c := by
      have h8 : (a ++ b).length = 8 := by rw [List.length_append]; omega
      rw [← h8, List.drop_left]
    have h5 : c.take 4 = c := by rw [← hc, List.take_length]
    unfold formatRoomCode
    rw [h1, h2, h3, h4, h5, hcode]
  unfold normalizeRoomCode
  simp only
  rw [hcompact, if_neg, hformat, String.ofList_toList]
  rintro (hne | hne)
  · exact hne hlen
  · rw [Bool.not_eq_true', List.all_eq_false] at hne
    obtain ⟨x, hx, hnot⟩ := hne
    exact hnot (hall x hx)

theorem credentials_canonical {crypto : Crypto} {roomCode : String} {credentials : RoomCredentials}
    (h : RoomCredentials.fromRoomCode crypto roomCode = .ok credentials) : CanonicalRoomCode credentials.roomCode := by
  unfold RoomCredentials.fromRoomCode at h
  cases hcode : Credentials.normalizeRoomCode roomCode with
  | error error => rw [hcode] at h; cases h
  | ok code =>
    rw [hcode] at h
    cases h
    exact normalizeRoomCode_ok hcode

theorem generate_canonical {crypto : Crypto} {material : Option (Vector UInt8 12)} {credentials : RoomCredentials}
    (h : RoomCredentials.generate crypto material = .ok credentials) : CanonicalRoomCode credentials.roomCode := by
  cases material with
  | none => cases h
  | some material => exact credentials_canonical h

theorem validateLoopbackAddress_loopback {port : Nat} (h : 0 < port ∧ port < 65536) :
    validateLoopbackAddress (loopback port).toString = .ok (loopback port) := by
  have hparse : SocketAddr.parse (loopback port).toString = some (loopback port) := Net.parse_loopback h.2
  have hport : ((loopback port).port == 0) = false := beq_eq_false_iff_ne.2 (Nat.pos_iff_ne_zero.1 h.1)
  have hloopback : (loopback port).ip.isLoopback = true := rfl
  unfold validateLoopbackAddress
  rw [hparse]
  simp only [hloopback, hport, Bool.not_true, Bool.or_self, Bool.false_eq_true, if_false]

end Terracotta
