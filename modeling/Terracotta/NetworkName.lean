import Terracotta.BitString
import Terracotta.Credentials
/-!
# The name of a room's network (`network_name_for`)

The loop shifts the bytes of the digest into a `u32` that is never masked, and takes symbols off the bits that wait in it.
What it writes is the base32 of the bytes, and the name keeps ten symbols of it.
-/
namespace Terracotta

/-! ## Symbols -/

def base32Alphabet : List Char := "abcdefghijklmnopqrstuvwxyz234567".toList

def base32Symbol (n : Nat) : Char := base32Alphabet.getD n 'a'

/-- Unpadded base32, in lower case. -/
def base32 (bytes : List UInt8) : List Char := BitString.encode base32Symbol 5 (BitString.ofBytes bytes)

theorem base32Symbol_inj : ∀ x < 32, ∀ y < 32, base32Symbol x = base32Symbol y → x = y := by decide +kernel

/-! ## The loop -/

/-- `pending` are the bits that wait in `value`; what is above them is left of bits that are written. -/
def Waits (value : Nat) (pending : List Bool) : Prop := BitString.value pending = value % 2 ^ pending.length

theorem Waits.split {value : Nat} {a b : List Bool} (h : Waits value (a ++ b)) :
    BitString.value a = (value >>> b.length) % 2 ^ a.length ∧ Waits value b := by
  unfold Waits at *
  have hlt := BitString.value_lt b
  rw [BitString.value_append, List.length_append, Nat.add_comm a.length, pow_add] at h
  have hhigh : value % (2 ^ b.length * 2 ^ a.length) / 2 ^ b.length = BitString.value a := by
    rw [← h, Nat.mul_add_div (by positivity), Nat.div_eq_of_lt hlt, Nat.add_zero]
  have hlow : value % (2 ^ b.length * 2 ^ a.length) % 2 ^ b.length = BitString.value b := by
    rw [← h, Nat.mul_add_mod, Nat.mod_eq_of_lt hlt]
  constructor
  · rw [Nat.shiftRight_eq_div_pow, ← Nat.mod_mul_right_div_self, hhigh]
  · rw [← Nat.mod_mul_right_mod value (2 ^ b.length) (2 ^ a.length), hlow]

/-- A byte is shifted in, while there is room for it. -/
theorem Waits.push {value : Nat} {pending : List Bool} (h : Waits value pending) (hroom : pending.length ≤ 24)
    (byte : UInt8) : Waits ((value * 256 + byte.toNat) % 4294967296) (pending ++ BitString.ofByte byte) := by
  have hbyte : byte.toNat < 2 ^ 8 := byte.toNat_lt
  have hdvd : 2 ^ (pending.length + 8) ∣ 4294967296 := pow_dvd_pow 2 (show pending.length + 8 ≤ 32 by omega)
  have hshift : (value * 256 + byte.toNat) % 2 ^ (pending.length + 8) =
      2 ^ 8 * (value % 2 ^ pending.length) + byte.toNat := by
    rw [pow_add, Nat.mul_comm (2 ^ pending.length), Nat.mod_mul, show value * 256 = 2 ^ 8 * value from Nat.mul_comm _ _,
      Nat.mul_add_mod, Nat.mod_eq_of_lt hbyte, Nat.mul_add_div (by decide), Nat.div_eq_of_lt hbyte, Nat.add_zero,
      Nat.add_comm]
  have hlen : (pending ++ BitString.ofByte byte).length = pending.length + 8 := List.length_append
  calc BitString.value (pending ++ BitString.ofByte byte)
      = 2 ^ 8 * (value % 2 ^ pending.length) + byte.toNat := by
        rw [BitString.value_append, BitString.value_ofByte, BitString.length_ofByte, show _ = _ from h]
    _ = (value * 256 + byte.toNat) % 4294967296 % 2 ^ (pending ++ BitString.ofByte byte).length := by
        rw [hlen, Nat.mod_mod_of_dvd _ hdvd, hshift]

/-- **What is taken off**: the whole groups of the bits that wait, and fewer than five bits stay. -/
theorem base32Drain_spec (value : Nat) : ∀ (n : Nat) {pending : List Bool}, pending.length = n → Waits value pending →
    ∃ gs rest, BitString.Whole 5 gs ∧ pending = gs.flatten ++ rest ∧ rest.length < 5 ∧ Waits value rest ∧
      base32Drain value n = (gs.map (fun group => base32Symbol (BitString.value group)), rest.length) := by
  intro n
  induction n using Nat.strong_induction_on with
  | _ n ih =>
    intro pending hlen hwaits
    by_cases hfive : 5 ≤ n
    · have hgroup : (pending.take 5).length = 5 := by
        rw [List.length_take]
        omega
      have hrest : (pending.drop 5).length = n - 5 := by rw [List.length_drop, hlen]
      rw [← List.take_append_drop 5 pending] at hwaits
      obtain ⟨hvalue, hwaits⟩ := hwaits.split
      obtain ⟨gs, rest, hwhole, hsplit, hshort, hwaits, hdrain⟩ := ih (n - 5) (by omega) hrest hwaits
      refine ⟨pending.take 5 :: gs, rest, fun group hg => ?_, ?_, hshort, hwaits, ?_⟩
      · rcases List.mem_cons.1 hg with rfl | hg
        · exact hgroup
        · exact hwhole group hg
      · rw [List.flatten_cons, List.append_assoc, ← hsplit, List.take_append_drop]
      · rw [base32Drain, if_pos hfive, hdrain, List.map_cons, hvalue, hrest, hgroup]
        rfl
    · refine ⟨[], pending, by simp [BitString.Whole], rfl, by omega, hwaits, ?_⟩
      rw [base32Drain, if_neg hfive, hlen]
      rfl

/-- What the loop has done with some bytes: the whole groups of their bits are written, and the others wait. -/
def Written (bytes : List UInt8) (state : List Char × Nat × Nat) : Prop :=
  ∃ gs pending, BitString.Whole 5 gs ∧ BitString.ofBytes bytes = gs.flatten ++ pending ∧ pending.length < 5 ∧
    Waits state.2.1 pending ∧ state.1 = gs.map (fun group => base32Symbol (BitString.value group)) ∧
    state.2.2 = pending.length

/-- One byte of the loop. -/
def base32Step : List Char × Nat × Nat → UInt8 → List Char × Nat × Nat :=
  fun (encoded, value, bits) byte =>
    let value := (value * 256 + byte.toNat) % 4294967296
    let (chars, bits) := base32Drain value (bits + 8)
    (encoded ++ chars, value, bits)

theorem written_step {bytes : List UInt8} {state : List Char × Nat × Nat} (h : Written bytes state) (byte : UInt8) :
    Written (bytes ++ [byte]) (base32Step state byte) := by
  obtain ⟨encoded, value, bits⟩ := state
  obtain ⟨gs, pending, hwhole, hbits, hshort, hwaits, hencoded, hlen⟩ := h
  simp only at hwaits hencoded hlen
  obtain ⟨gs', rest, hwhole', hsplit, hshort', hwaits', hdrain⟩ := base32Drain_spec _ _
    (show (pending ++ BitString.ofByte byte).length = bits + 8 by rw [List.length_append, BitString.length_ofByte, hlen])
    (hwaits.push (by omega) byte)
  refine ⟨gs ++ gs', rest, fun group hg => ?_, ?_, hshort', ?_, ?_, ?_⟩
  · exact (List.mem_append.1 hg).elim (hwhole group) (hwhole' group)
  · rw [BitString.ofBytes_append, hbits, List.flatten_append, List.append_assoc, List.append_assoc, ← hsplit]
    simp [BitString.ofBytes]
  · exact hwaits'
  · simp only [base32Step, hdrain, hencoded, List.map_append]
  · simp only [base32Step, hdrain]

theorem written_foldl : ∀ (bytes done : List UInt8) (state : List Char × Nat × Nat), Written done state →
    Written (done ++ bytes) (bytes.foldl base32Step state)
  | [], done, state, h => by rwa [List.append_nil]
  | byte :: bytes, done, state, h => by
    have ih := written_foldl bytes (done ++ [byte]) _ (written_step h byte)
    rwa [List.append_assoc] at ih

/-- The bits that are left at the end, filled up with zeros. -/
theorem Waits.tail {value : Nat} {pending : List Bool} (h : Waits value pending) (hshort : pending.length < 5) :
    BitString.value (pending ++ List.replicate (5 - pending.length) false) = (value <<< (5 - pending.length)) % 32 := by
  unfold Waits at h
  have hpow : 32 = 2 ^ (5 - pending.length) * 2 ^ pending.length := by
    rw [← pow_add, Nat.sub_add_cancel hshort.le]
    rfl
  rw [BitString.value_append, BitString.value_replicate_false, List.length_replicate, Nat.add_zero, h,
    Nat.shiftLeft_eq, Nat.mul_comm value, hpow, Nat.mul_mod_mul_left]

/-- **The loop and its tail write the base32 of the bytes**, however many these are. -/
theorem base32_eq (bytes : List UInt8) :
    base32 bytes =
      (let (encoded, value, bits) := bytes.foldl base32Step (([] : List Char), 0, 0)
      if 0 < bits then encoded ++ [base32Symbol ((value <<< (5 - bits)) % 32)] else encoded) := by
  have hstart : Written [] (([] : List Char), 0, 0) :=
    ⟨[], [], by simp [BitString.Whole], rfl, by decide, rfl, rfl, rfl⟩
  obtain ⟨gs, pending, hwhole, hbits, hshort, hwaits, hencoded, hlen⟩ := written_foldl bytes [] _ hstart
  rw [List.nil_append] at hbits
  generalize bytes.foldl base32Step (([] : List Char), 0, 0) = state at hwaits hencoded hlen ⊢
  obtain ⟨encoded, value, bits⟩ := state
  simp only at hwaits hencoded hlen
  simp only
  rw [base32, BitString.encode, hbits, BitString.groups_flatten (by decide) hwhole, List.map_append, ← hencoded]
  cases pending with
  | nil =>
    rw [hlen, BitString.groups_nil, List.map_nil, List.append_nil, if_neg (by simp)]
  | cons bit pending =>
    rw [BitString.groups_short (List.cons_ne_nil bit pending) hshort, List.map_singleton, hwaits.tail hshort, hlen,
      if_pos (by simp)]

/-! ## The name -/

theorem networkNameFor_eq (crypto : Crypto) (compact : List Char) :
    networkNameFor crypto compact =
      String.ofList ("tc-".toList ++ (base32 ((crypto.sha256 (Text.utf8 compact)).toList.take 8)).take 10) := by
  rw [base32_eq]
  rfl

/-- The bits of a digest. -/
def digestBits (digest : Vector UInt8 32) : List Bool := BitString.ofBytes digest.toList

/-- **A network is named by the first ten symbols of the base32 of eight bytes**, so by the first 50 bits of the digest:
digests with the same ones have the same name, and digests with other ones have another. -/
theorem networkNameFor_bits (crypto crypto' : Crypto) (compact compact' : List Char) :
    networkNameFor crypto compact =
      String.ofList ("tc-".toList ++ (base32 ((crypto.sha256 (Text.utf8 compact)).toList.take 8)).take 10) ∧
    (networkNameFor crypto compact = networkNameFor crypto' compact' ↔
      (digestBits (crypto.sha256 (Text.utf8 compact))).take 50 =
        (digestBits (crypto'.sha256 (Text.utf8 compact'))).take 50) := by
  refine ⟨networkNameFor_eq crypto compact, ?_⟩
  rw [networkNameFor_eq, networkNameFor_eq]
  have hname : ∀ digest : Vector UInt8 32, (base32 (digest.toList.take 8)).take 10 =
        BitString.encode base32Symbol 5 ((digestBits digest).take 50) ∧ ((digestBits digest).take 50).length = 5 * 10 := by
    intro digest
    have hlen : (digest.toList.take 8).length = 8 := by
      rw [List.length_take, Vector.length_toList]
      rfl
    have hbits : (BitString.ofBytes (digest.toList.take 8)).length = 64 := by rw [BitString.length_ofBytes, hlen]
    have hfirst : (digestBits digest).take 50 = (BitString.ofBytes (digest.toList.take 8)).take 50 := by
      rw [digestBits, ← List.take_append_drop 8 digest.toList, BitString.ofBytes_append,
        List.take_append_of_le_length (by omega), List.take_append_drop]
    refine ⟨?_, by rw [hfirst, List.length_take, hbits]; rfl⟩
    rw [base32, BitString.take_encode (by decide) (by omega), hfirst]
  obtain ⟨hsymbols, hlen⟩ := hname (crypto.sha256 (Text.utf8 compact))
  obtain ⟨hsymbols', hlen'⟩ := hname (crypto'.sha256 (Text.utf8 compact'))
  rw [hsymbols, hsymbols', String.ofList_inj, List.append_cancel_left_eq]
  exact ⟨BitString.encode_inj (by decide) base32Symbol_inj hlen hlen', congrArg _⟩

end Terracotta
