import Terracotta.Requests
import Terracotta.ScaffoldingFrames
/-!
# The identity key (`decode_identity`)

The gateway sends the 32 bytes of the key as `Convert.ToHexString` writes them.  `decode_identity` cuts the text into pairs of
bytes and leaves each to `u8::from_str_radix`, which takes a sign before its digits.
-/
namespace Terracotta

/-! ## Digits -/

def upperHexDigits : List Char := "0123456789ABCDEF".toList

/-- `Convert.ToHexString`. -/
def toHexString (bytes : List UInt8) : String :=
  String.ofList (bytes.flatMap (fun byte =>
    [upperHexDigits.getD (byte.toNat / 16) '0', upperHexDigits.getD (byte.toNat % 16) '0']))

def isHexDigit (c : Char) : Bool := upperHexDigits.contains c.toUpper

def hexDigitValue (c : Char) : Nat := upperHexDigits.idxOf c.toUpper

/-- The bytes that pairs of digits stand for. -/
def denotedBytes : List Char → List UInt8
  | a :: b :: rest => UInt8.ofNat (16 * hexDigitValue a + hexDigitValue b) :: denotedBytes rest
  | _ => []

theorem isHexDigit_ascii {c : Char} (h : isHexDigit c = true) : c.toNat < 128 := by
  have hupper : c.toUpper ∈ upperHexDigits := List.contains_iff_mem.1 h
  have hdigits : (upperHexDigits.all fun d => decide (d.toNat < 128)) = true := by decide
  by_contra hle
  have hsame : c.toUpper = c := by
    unfold Char.toUpper
    rw [dif_neg]
    rintro ⟨-, hhigh⟩
    have hhigh : c.val.toNat ≤ 122 := UInt32.le_iff_toNat_le.1 hhigh
    exact hle (lt_of_le_of_lt hhigh (by omega))
  rw [hsame] at hupper
  exact hle (of_decide_eq_true (List.all_eq_true.1 hdigits c hupper))

/-- The digits of `from_str_radix` are those of `Convert.ToHexString`, in either case. -/
theorem hexValue_eq (c : Char) : hexValue c = if isHexDigit c then some (hexDigitValue c) else none := by
  by_cases hascii : c.toNat < 128
  · have hall : ∀ n < 128, hexValue (Char.ofNat n) =
        if isHexDigit (Char.ofNat n) then some (hexDigitValue (Char.ofNat n)) else none := by decide +kernel
    simpa only [Char.ofNat_toNat] using hall c.toNat hascii
  · have hnot : isHexDigit c = false := by
      rw [← Bool.not_eq_true]
      exact fun h => hascii (isHexDigit_ascii h)
    have hval : c.val.toNat = c.toNat := rfl
    have hlow : ∀ d : Char, d.toNat < 128 → ¬ c ≤ d := by
      intro d hd hle
      have hle : c.toNat ≤ d.toNat := UInt32.le_iff_toNat_le.1 hle
      omega
    rw [hnot, hexValue, if_neg (fun h => hlow '9' (by decide) h.2), if_neg (fun h => hlow 'f' (by decide) h.2),
      if_neg (fun h => hlow 'F' (by decide) h.2)]
    rfl

theorem hexDigitValue_upperHexDigits {n : Nat} (h : n < 16) :
    isHexDigit (upperHexDigits.getD n '0') = true ∧ hexDigitValue (upperHexDigits.getD n '0') = n := by
  have hall : ∀ n < 16, isHexDigit (upperHexDigits.getD n '0') = true ∧
      hexDigitValue (upperHexDigits.getD n '0') = n := by decide
  exact hall n h

/-! ## Pairs of characters -/

/-- What a pair is read from: digits, the first of which may give way to a sign. -/
def PairDigits (s : List Char) : Prop :=
  s.length % 2 = 0 ∧ ∀ i c, s[i]? = some c → isHexDigit c = true ∨ c = '+' ∧ i % 2 = 0

theorem pairDigits_cons {a b : Char} {rest : List Char} : PairDigits (a :: b :: rest) ↔
    ((isHexDigit a = true ∨ a = '+') ∧ isHexDigit b = true) ∧ PairDigits rest := by
  unfold PairDigits
  constructor
  · rintro ⟨hlen, hall⟩
    have ha := hall 0 a rfl
    have hb := hall 1 b rfl
    refine ⟨⟨ha.imp_right (·.1), hb.resolve_right (fun h => absurd h.2 (by decide))⟩, ?_, fun i c hc => ?_⟩
    · simp only [List.length_cons] at hlen
      omega
    · refine (hall (i + 2) c hc).imp_right (fun h => ⟨h.1, ?_⟩)
      omega
  · rintro ⟨⟨ha, hb⟩, hlen, hall⟩
    refine ⟨by simp only [List.length_cons]; omega, fun i c hc => ?_⟩
    match i with
    | 0 =>
      cases hc
      exact ha.imp_right (⟨·, rfl⟩)
    | 1 =>
      cases hc
      exact .inl hb
    | i + 2 => exact (hall i c hc).imp_right (fun h => ⟨h.1, by omega⟩)

theorem hexByte_isSome {a b : Char} :
    (hexByte a b).isSome = true ↔ (isHexDigit a = true ∨ a = '+') ∧ isHexDigit b = true := by
  unfold hexByte
  rw [hexValue_eq a, hexValue_eq b]
  by_cases ha : a = '+'
  · cases hb : isHexDigit b <;> simp [ha]
  · cases hb : isHexDigit b <;> cases ha' : isHexDigit a <;> simp [ha]

theorem hexByte_digits {a b : Char} (ha : isHexDigit a = true) (hb : isHexDigit b = true) :
    hexByte a b = some (UInt8.ofNat (16 * hexDigitValue a + hexDigitValue b)) := by
  have hsign : a ≠ '+' := by
    rintro rfl
    exact absurd ha (by decide)
  unfold hexByte
  rw [hexValue_eq a, hexValue_eq b, if_pos ha, if_pos hb]
  simp only [Option.bind_eq_bind, Option.bind_some, if_neg hsign]
  rfl

/-- **The texts that are read, of any length.** -/
theorem hexBytes_isSome : ∀ s : List Char, (hexBytes s).isSome = true ↔ PairDigits s
  | [] => by simp [hexBytes, PairDigits]
  | [a] => by simp [hexBytes, PairDigits]
  | a :: b :: rest => by
    rw [pairDigits_cons, ← hexByte_isSome, ← hexBytes_isSome rest, hexBytes]
    cases hexByte a b with
    | none => simp
    | some byte => cases hexBytes rest <;> simp

theorem hexBytes_digits : ∀ {s : List Char}, s.length % 2 = 0 → (∀ c ∈ s, isHexDigit c = true) →
    hexBytes s = some (denotedBytes s)
  | [], _, _ => rfl
  | [a], h, _ => absurd h (by simp)
  | a :: b :: rest, hlen, hall => by
    have hrest : rest.length % 2 = 0 := by
      simp only [List.length_cons] at hlen
      omega
    rw [hexBytes, hexByte_digits (hall a (by simp)) (hall b (by simp)),
      hexBytes_digits hrest (fun c hc => hall c (by simp [hc]))]
    rfl

/-! ## Pairs of bytes -/

/-- The digits after the sign, checked for what fits a `u8`. -/
def readHexDigits (value : Nat) : List Char → Option UInt8
  | [] => some (UInt8.ofNat value)
  | c :: rest => do
    let digit ← hexValue c
    if 255 < 16 * value + digit then none else readHexDigits (16 * value + digit) rest

/-- `u8::from_str_radix(_, 16)`.  A minus sign is read as a digit, and is none. -/
def u8FromStrRadix16 : List Char → Option UInt8
  | [] | ['+'] | ['-'] => none
  | c :: rest => if c = '+' then readHexDigits 0 rest else readHexDigits 0 (c :: rest)

/-- `chunks_exact(2)`. -/
def chunkPairs : List UInt8 → List (List UInt8)
  | a :: b :: rest => [a, b] :: chunkPairs rest
  | _ => []

def decodeChunk (chunk : List UInt8) : Option UInt8 := do
  let encoded ← Text.fromUtf8 chunk
  u8FromStrRadix16 encoded.toList

/-- `decode_identity` on the bytes of the text. -/
def decodeIdentityBytes (privateKey : List UInt8) : Option (List UInt8) :=
  if privateKey.length ≠ 64 then none else (chunkPairs privateKey).mapM decodeChunk

theorem readHexDigits_ascii : ∀ {s : List Char} {value : Nat} {byte : UInt8}, readHexDigits value s = some byte →
    ∀ c ∈ s, c.toNat < 128
  | [], _, _, _ => by simp
  | c :: rest, value, byte, h => by
    rw [readHexDigits, hexValue_eq] at h
    cases hc : isHexDigit c with
    | false =>
      rw [hc] at h
      cases h
    | true =>
      rw [if_pos hc, Option.bind_eq_bind, Option.bind_some] at h
      split at h
      · cases h
      · intro d hd
        rcases List.mem_cons.1 hd with rfl | hd
        · exact isHexDigit_ascii hc
        · exact readHexDigits_ascii h d hd

theorem u8FromStrRadix16_ascii {s : List Char} {byte : UInt8} (h : u8FromStrRadix16 s = some byte) :
    ∀ c ∈ s, c.toNat < 128 := by
  unfold u8FromStrRadix16 at h
  split at h
  · cases h
  · cases h
  · cases h
  · rename_i c rest _ _
    split at h
    · rename_i hsign
      intro d hd
      rcases List.mem_cons.1 hd with rfl | hd
      · rw [hsign]
        decide
      · exact readHexDigits_ascii h d hd
    · exact readHexDigits_ascii h

/-- Two characters are read as `hexByte` says. -/
theorem u8FromStrRadix16_pair (a b : Char) : u8FromStrRadix16 [a, b] = hexByte a b := by
  have hvalue : ∀ c, isHexDigit c = true → hexDigitValue c < 16 := by
    intro c hc
    exact List.idxOf_lt_length_of_mem (List.contains_iff_mem.1 hc)
  unfold u8FromStrRadix16 hexByte
  by_cases ha : a = '+'
  · cases hb : isHexDigit b with
    | false => simp [ha, readHexDigits, hexValue_eq b, hb]
    | true =>
      have := hvalue b hb
      simp [ha, readHexDigits, hexValue_eq b, hb]
      omega
  · cases ha' : isHexDigit a with
    | false =>
      cases hb : isHexDigit b <;> simp [ha, readHexDigits, hexValue_eq a, hexValue_eq b, hb, ha']
    | true =>
      have h1 := hvalue a ha'
      cases hb : isHexDigit b with
      | false => simp [ha, readHexDigits, hexValue_eq a, hexValue_eq b, hb, ha']
      | true =>
        have h2 := hvalue b hb
        simp [ha, readHexDigits, hexValue_eq a, hexValue_eq b, hb, ha']
        omega

theorem utf8EncodeChar_ascii {c : Char} (h : c.toNat < 128) : String.utf8EncodeChar c = [UInt8.ofNat c.toNat] := by
  have hval : c.val.toNat = c.toNat := rfl
  unfold String.utf8EncodeChar
  simp only [hval]
  rw [if_pos (by omega)]

/-- A character outside ASCII starts with a byte outside ASCII. -/
theorem utf8EncodeChar_high {c : Char} (h : ¬ c.toNat < 128) :
    ∃ x t, String.utf8EncodeChar c = x :: t ∧ 128 ≤ x.toNat := by
  have hval : c.val.toNat = c.toNat := rfl
  unfold String.utf8EncodeChar
  simp only [hval]
  rw [if_neg (by omega)]
  split
  · exact ⟨_, _, rfl, by rw [UInt8.toNat_ofNat']; omega⟩
  · split
    · exact ⟨_, _, rfl, by rw [UInt8.toNat_ofNat']; omega⟩
    · exact ⟨_, _, rfl, by rw [UInt8.toNat_ofNat']; omega⟩

theorem decodeChunk_high {chunk : List UInt8} (h : ∃ x ∈ chunk, 128 ≤ x.toNat) : decodeChunk chunk = none := by
  obtain ⟨x, hx, hhigh⟩ := h
  rw [Option.eq_none_iff_forall_ne_some]
  intro byte hbyte
  obtain ⟨encoded, hencoded, hdigits⟩ := Option.bind_eq_some_iff.1 hbyte
  have hascii := u8FromStrRadix16_ascii hdigits
  rw [← Text.fromUtf8_eq_some.1 hencoded] at hx
  obtain ⟨c, hc, hxc⟩ := List.mem_flatMap.1 hx
  rw [utf8EncodeChar_ascii (hascii c hc), List.mem_singleton] at hxc
  have hlt := hascii c hc
  rw [hxc, UInt8.toNat_ofNat'] at hhigh
  omega

theorem decodeChunk_ascii {a b : Char} (ha : a.toNat < 128) (hb : b.toNat < 128) :
    decodeChunk [UInt8.ofNat a.toNat, UInt8.ofNat b.toNat] = hexByte a b := by
  have hutf8 : Text.fromUtf8 [UInt8.ofNat a.toNat, UInt8.ofNat b.toNat] = some (String.ofList [a, b]) := by
    rw [Text.fromUtf8_eq_some, String.toList_ofList]
    simp only [Text.utf8, List.flatMap_cons, List.flatMap_nil, utf8EncodeChar_ascii ha, utf8EncodeChar_ascii hb]
    rfl
  rw [decodeChunk, hutf8, Option.bind_eq_bind, Option.bind_some, String.toList_ofList, u8FromStrRadix16_pair]

theorem chunkPairs_high {x y : UInt8} {bytes : List UInt8} (h : 128 ≤ x.toNat ∨ 128 ≤ y.toNat) :
    (chunkPairs (x :: y :: bytes)).mapM decodeChunk = none := by
  have hchunk : decodeChunk [x, y] = none :=
    decodeChunk_high (h.elim (fun h => ⟨x, by simp, h⟩) (fun h => ⟨y, by simp, h⟩))
  rw [chunkPairs, List.mapM_cons, hchunk]
  rfl

theorem hexBytes_high {a b : Char} {rest : List Char} (h : ¬ a.toNat < 128 ∨ ¬ b.toNat < 128) :
    hexBytes (a :: b :: rest) = none := by
  rw [← Option.not_isSome_iff_eq_none, hexBytes_isSome, pairDigits_cons]
  rintro ⟨⟨ha | rfl, hb⟩, -⟩
  · exact h.elim (· (isHexDigit_ascii ha)) (· (isHexDigit_ascii hb))
  · exact h.elim (· (by decide)) (· (isHexDigit_ascii hb))

/-- **Pairs of bytes are pairs of characters**: a pair with a part of a longer character in it is refused, whole or not. -/
theorem chunkPairs_utf8 : ∀ s : List Char, (Text.utf8 s).length % 2 = 0 →
    (chunkPairs (Text.utf8 s)).mapM decodeChunk = hexBytes s
  | [], _ => rfl
  | [a], hlen => by
    by_cases ha : a.toNat < 128
    · rw [show Text.utf8 [a] = [UInt8.ofNat a.toNat] by simp [Text.utf8, utf8EncodeChar_ascii ha]] at hlen
      exact absurd hlen (by simp)
    · obtain ⟨x, t, hcode, hx⟩ := utf8EncodeChar_high ha
      rw [show Text.utf8 [a] = x :: t by simp [Text.utf8, hcode]] at hlen ⊢
      cases t with
      | nil => exact absurd hlen (by simp)
      | cons y t => exact chunkPairs_high (.inl hx)
  | a :: b :: rest, hlen => by
    have hsplit : Text.utf8 (a :: b :: rest) =
        String.utf8EncodeChar a ++ (String.utf8EncodeChar b ++ Text.utf8 rest) := by
      simp only [Text.utf8, List.flatMap_cons]
    rw [hsplit] at hlen ⊢
    by_cases ha : a.toNat < 128
    · rw [utf8EncodeChar_ascii ha] at hlen ⊢
      by_cases hb : b.toNat < 128
      · rw [utf8EncodeChar_ascii hb] at hlen ⊢
        have hrest : (Text.utf8 rest).length % 2 = 0 := by
          simp only [List.cons_append, List.nil_append, List.length_cons] at hlen
          omega
        simp only [List.cons_append, List.nil_append, chunkPairs, List.mapM_cons, decodeChunk_ascii ha hb,
          chunkPairs_utf8 rest hrest, hexBytes]
      · obtain ⟨y, t, hcode, hy⟩ := utf8EncodeChar_high hb
        rw [hcode, hexBytes_high (.inr hb)]
        exact chunkPairs_high (.inr hy)
    · obtain ⟨x, t, hcode, hx⟩ := utf8EncodeChar_high ha
      obtain ⟨y, bytes, hbytes⟩ : ∃ y bytes, t ++ (String.utf8EncodeChar b ++ Text.utf8 rest) = y :: bytes := by
        refine List.exists_cons_of_ne_nil (fun hnil => ?_)
        have hb := (List.append_eq_nil_iff.1 (List.append_eq_nil_iff.1 hnil).2).1
        exact absurd (congrArg List.length hb) (by rw [String.length_utf8EncodeChar]; exact (Char.utf8Size_pos b).ne')
      rw [hcode, List.cons_append, hbytes, hexBytes_high (.inl ha)]
      exact chunkPairs_high (.inl hx)

theorem decodeIdentity_bytes (privateKey : String) :
    decodeIdentity privateKey = decodeIdentityBytes (Text.utf8 privateKey.toList) := by
  unfold decodeIdentity decodeIdentityBytes
  rw [Text.length_utf8]
  by_cases hlen : Text.utf8Len privateKey.toList = 64
  · rw [if_neg (not_not.2 hlen), if_neg (not_not.2 hlen), chunkPairs_utf8]
    rw [Text.length_utf8, hlen]
  · rw [if_pos hlen, if_pos hlen]

/-! ## Which keys are read -/

/-- 64 hexadecimal digits, in either case. -/
def IsKeyText (s : String) : Prop := s.toList.length = 64 ∧ ∀ c ∈ s.toList, isHexDigit c = true

/-- 64 hexadecimal digits, were it not for signs in the places of first digits. -/
def SignedKeyText (s : String) : Prop :=
  s.toList.length = 64 ∧ '+' ∈ s.toList ∧
    ∀ i c, s.toList[i]? = some c → isHexDigit c = true ∨ c = '+' ∧ i % 2 = 0

/-- The decoder takes the texts of keys and no others, for what they say. -/
def ReadsKey (s : String) : Prop :=
  ((decodeIdentity s).isSome = true ↔ IsKeyText s) ∧
    (IsKeyText s → decodeIdentity s = some (denotedBytes s.toList) ∧ (denotedBytes s.toList).length = 32)

theorem utf8Len_of_ascii : ∀ {s : List Char}, (∀ c ∈ s, c.toNat < 128) → Text.utf8Len s = s.length
  | [], _ => rfl
  | c :: s, h => by
    have hsize : c.utf8Size = 1 := by
      rw [← String.length_utf8EncodeChar, utf8EncodeChar_ascii (h c List.mem_cons_self), List.length_singleton]
    rw [Text.utf8Len_cons, hsize, utf8Len_of_ascii (fun d hd => h d (List.mem_cons_of_mem c hd)), List.length_cons]
    omega

theorem PairDigits.ascii {s : List Char} (h : PairDigits s) : ∀ c ∈ s, c.toNat < 128 := by
  intro c hc
  obtain ⟨i, hi⟩ := List.mem_iff_getElem?.1 hc
  rcases h.2 i c hi with hdigit | ⟨rfl, -⟩
  · exact isHexDigit_ascii hdigit
  · decide

theorem decodeIdentity_isSome (s : String) :
    (decodeIdentity s).isSome = true ↔ s.toList.length = 64 ∧ PairDigits s.toList := by
  unfold decodeIdentity
  constructor
  · intro h
    split at h
    · cases h
    · rename_i hlen
      have hpairs := (hexBytes_isSome s.toList).1 h
      exact ⟨(utf8Len_of_ascii hpairs.ascii).symm.trans (not_not.1 hlen), hpairs⟩
  · rintro ⟨hlen, hpairs⟩
    rw [if_neg (not_not.2 ((utf8Len_of_ascii hpairs.ascii).trans hlen))]
    exact (hexBytes_isSome s.toList).2 hpairs

theorem IsKeyText.pairDigits {s : String} (h : IsKeyText s) : PairDigits s.toList :=
  ⟨by rw [h.1], fun _ c hc => .inl (h.2 c (List.mem_of_getElem? hc))⟩

theorem length_denotedBytes : ∀ s : List Char, (denotedBytes s).length = s.length / 2
  | [] => rfl
  | [a] => by simp [denotedBytes]
  | a :: b :: rest => by
    rw [denotedBytes, List.length_cons, length_denotedBytes rest]
    simp only [List.length_cons]
    omega

theorem decodeIdentity_keyText {s : String} (h : IsKeyText s) :
    decodeIdentity s = some (denotedBytes s.toList) ∧ (denotedBytes s.toList).length = 32 := by
  refine ⟨?_, by rw [length_denotedBytes, h.1]⟩
  unfold decodeIdentity
  rw [if_neg (not_not.2 ((utf8Len_of_ascii h.pairDigits.ascii).trans h.1)), hexBytes_digits h.pairDigits.1 h.2]

/-- **What the gateway writes is the text of a key**, and of the key it was written from. -/
theorem toHexString_digits (bytes : List UInt8) : (toHexString bytes).toList.length = 2 * bytes.length ∧
    (∀ c ∈ (toHexString bytes).toList, isHexDigit c = true) ∧ denotedBytes (toHexString bytes).toList = bytes := by
  unfold toHexString
  rw [String.toList_ofList]
  induction bytes with
  | nil => exact ⟨rfl, by simp, rfl⟩
  | cons byte bytes ih =>
    obtain ⟨hlen, hdigits, hbytes⟩ := ih
    have hbyte : byte.toNat < 256 := byte.toNat_lt
    obtain ⟨hhigh, hhighValue⟩ := hexDigitValue_upperHexDigits (show byte.toNat / 16 < 16 by omega)
    obtain ⟨hlow, hlowValue⟩ := hexDigitValue_upperHexDigits (show byte.toNat % 16 < 16 by omega)
    rw [List.flatMap_cons]
    refine ⟨?_, fun c hc => ?_, ?_⟩
    · rw [List.length_append, hlen]
      simp only [List.length_cons, List.length_nil]
      omega
    · simp only [List.cons_append, List.nil_append, List.mem_cons] at hc
      rcases hc with rfl | rfl | hc
      · exact hhigh
      · exact hlow
      · exact hdigits c hc
    · simp only [List.cons_append, List.nil_append, denotedBytes]
      rw [hhighValue, hlowValue, hbytes, Nat.div_add_mod, UInt8.ofNat_toNat]

/-- **The decoder reads a text for what it is exactly if no sign makes up for a digit of a key**, and it reads what the
gateway sends. -/
theorem readsKey_iff (s : String) (key : Vector UInt8 32) :
    (ReadsKey s ↔ ¬ SignedKeyText s) ∧ decodeIdentity (toHexString key.toList) = some key.toList := by
  constructor
  · unfold ReadsKey
    rw [decodeIdentity_isSome]
    constructor
    · rintro ⟨hiff, -⟩ ⟨hlen, hsign, hall⟩
      have hkey := hiff.1 ⟨hlen, by rw [hlen], hall⟩
      exact absurd (hkey.2 '+' hsign) (by decide)
    · intro hunsigned
      refine ⟨⟨fun ⟨hlen, hpairs⟩ => ⟨hlen, fun c hc => ?_⟩, fun h => ⟨h.1, h.pairDigits⟩⟩, decodeIdentity_keyText⟩
      obtain ⟨i, hi⟩ := List.mem_iff_getElem?.1 hc
      refine (hpairs.2 i c hi).resolve_right ?_
      rintro ⟨rfl, -⟩
      exact hunsigned ⟨hlen, hc, hpairs.2⟩
  · obtain ⟨hlen, hdigits, hbytes⟩ := toHexString_digits key.toList
    have hkey : IsKeyText (toHexString key.toList) := ⟨by rw [hlen, Vector.length_toList], hdigits⟩
    rw [(decodeIdentity_keyText hkey).1, hbytes]

/-- **A text of signs and digits is read as a key**: 32 times the sign of a five. -/
theorem signed_key_is_read : ¬ ∀ s : String, (decodeIdentity s).isSome = true ↔ IsKeyText s := by
  intro h
  have hkey := (h (String.ofList ((List.replicate 32 ['+', '5']).flatten))).1 (by decide)
  exact absurd (hkey.2 '+' (by decide)) (by decide)

end Terracotta
