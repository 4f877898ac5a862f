import Terracotta.Slices
import Terracotta.Backend
import Terracotta.Sessions
/-!
# One room code, five readings (`room/service.rs`, `network/credentials.rs`, `network/discovery.rs`, `RoomCode.cs`)

The Helper normalizes a room code in two places and checks it in a third; the plugin normalizes it before it sends it.
The Rust functions are written here once more as they run, on UTF-8 bytes and with slices that can panic, and then
compared with the readings of the other modules.
-/
namespace Text

/-- A text is its trimmed middle between two runs of white space. -/
theorem exists_trim (s : List Char) : ∃ l r, s = l ++ trim s ++ r ∧ (∀ c ∈ l, isWhitespace c = true) ∧
    ∀ c ∈ r, isWhitespace c = true := by
  refine ⟨s.takeWhile isWhitespace, (s.dropWhile isWhitespace).rtakeWhile isWhitespace, ?_, ?_, ?_⟩
  · unfold trim
    rw [List.append_assoc, List.rdropWhile_append_rtakeWhile, List.takeWhile_append_dropWhile]
  · exact fun c hc => List.mem_takeWhile_imp hc
  · exact fun c hc => List.mem_rtakeWhile_imp hc

theorem trim_eq_nil_of_all {s : List Char} (h : s.all isWhitespace = true) : trim s = [] := by
  unfold trim
  rw [List.dropWhile_eq_nil_iff.2 (List.all_eq_true.1 h)]
  rfl

end Text

namespace Terracotta

/-! ## On bytes -/

/-- `u8::is_ascii_alphanumeric`. -/
def isAsciiAlphanumeric (b : UInt8) : Bool := (48 ≤ b && b ≤ 57) || (65 ≤ b && b ≤ 90) || (97 ≤ b && b ≤ 122)

def invalidCode : RoomError :=
  ⟨"room.invalid-code", "The room code must contain three groups of four ASCII letters or digits.", false⟩

/-- The check of all three copies. -/
def checkCompact (compact : List Char) : Bool :=
  (Text.utf8 compact).length == 12 && (Text.utf8 compact).all isAsciiAlphanumeric

/-- `format_room_code`; `none` is a panic of a slice. -/
def sliceRoomCode (compact : List Char) : Option String := do
  let first ← Text.slice compact 0 4
  let second ← Text.slice compact 4 8
  let third ← Text.slice compact 8 12
  return String.ofList (first ++ '-' :: second ++ '-' :: third)

/-- `normalize_room_code` of `room/service.rs`, which has the three slices in its own body. -/
def normalizeRoomCodeBytes (value : String) : Option (Except RoomError String) :=
  let compact := compactRoomCode value.toList
  if !checkCompact compact then some (.error invalidCode)
  else do
    let first ← Text.slice compact 0 4
    let second ← Text.slice compact 4 8
    let third ← Text.slice compact 8 12
    return .ok (String.ofList (first ++ '-' :: second ++ '-' :: third))

/-- `normalize_room_code` of `network/credentials.rs`. -/
def Credentials.normalizeRoomCodeBytes (value : String) : Option (Except RoomError String) :=
  let compact := compactRoomCode value.toList
  if !checkCompact compact then some (.error invalidCode) else (sliceRoomCode compact).map .ok

/-- `advertisement_path`, up to the directory. -/
def advertisementPathBytes (roomCode : String) : Except RoomError String :=
  let compact := compactRoomCode roomCode.toList
  if !checkCompact compact then .error invalidCode else .ok (String.ofList compact ++ ".json")

theorem isAsciiAlphanumeric_iff {b : UInt8} : isAsciiAlphanumeric b = true ↔
    (48 ≤ b.toNat ∧ b.toNat ≤ 57) ∨ (65 ≤ b.toNat ∧ b.toNat ≤ 90) ∨ (97 ≤ b.toNat ∧ b.toNat ≤ 122) := by
  simp [isAsciiAlphanumeric, UInt8.le_iff_toNat_le, or_assoc]

theorem isAlphanum_iff {c : Char} : c.isAlphanum = true ↔
    (48 ≤ c.toNat ∧ c.toNat ≤ 57) ∨ (65 ≤ c.toNat ∧ c.toNat ≤ 90) ∨ (97 ≤ c.toNat ∧ c.toNat ≤ 122) := by
  simp only [Char.isAlphanum, Char.isAlpha, Char.isUpper, Char.isLower, Char.isDigit, Bool.or_eq_true,
    Bool.and_eq_true, decide_eq_true_eq, ge_iff_le, UInt32.le_iff_toNat_le, Char.reduceVal, UInt32.reduceToNat]
  show _ ↔ (48 ≤ c.val.toNat ∧ _) ∨ _
  tauto

/-- **A character is an ASCII letter or digit exactly if all its bytes are.** -/
theorem all_utf8EncodeChar (c : Char) : (String.utf8EncodeChar c).all isAsciiAlphanumeric = c.isAlphanum := by
  rw [Bool.eq_iff_iff, isAlphanum_iff, List.all_eq_true]
  have hval : c.val.toNat = c.toNat := rfl
  unfold String.utf8EncodeChar
  simp only [hval]
  by_cases hascii : c.toNat ≤ 127
  · rw [if_pos hascii]
    simp only [List.mem_singleton, forall_eq, isAsciiAlphanumeric_iff, UInt8.toNat_ofNat']
    rw [Nat.mod_eq_of_lt (by omega)]
  · -- the first byte of a longer encoding is past ASCII
    rw [if_neg hascii]
    refine ⟨fun h => ?_, fun h => by omega⟩
    have hfirst : ∀ {b : UInt8} {bs : List UInt8}, 128 ≤ b.toNat → ¬ ∀ x ∈ b :: bs, isAsciiAlphanumeric x = true := by
      intro b bs hb hall
      have := isAsciiAlphanumeric_iff.1 (hall b List.mem_cons_self)
      omega
    refine absurd h ?_
    split
    · exact hfirst (by rw [UInt8.toNat_ofNat']; omega)
    · split
      · exact hfirst (by rw [UInt8.toNat_ofNat']; omega)
      · exact hfirst (by rw [UInt8.toNat_ofNat']; omega)

theorem all_utf8 (s : List Char) : (Text.utf8 s).all isAsciiAlphanumeric = s.all Char.isAlphanum := by
  unfold Text.utf8
  rw [List.all_flatMap]
  simp only [all_utf8EncodeChar]

/-- Twelve ASCII letters and digits. -/
def Twelve (s : List Char) : Prop := s.length = 12 ∧ ∀ c ∈ s, c.isAlphanum = true

theorem checkCompact_iff {compact : List Char} : checkCompact compact = true ↔ Twelve compact := by
  unfold checkCompact Twelve
  rw [Bool.and_eq_true, beq_iff_eq, Text.length_utf8, all_utf8, List.all_eq_true]
  constructor
  · rintro ⟨hlen, hall⟩
    exact ⟨(utf8Len_of_alphanum hall).symm.trans hlen, hall⟩
  · rintro ⟨hlen, hall⟩
    exact ⟨(utf8Len_of_alphanum hall).trans hlen, hall⟩

/-- The check as the other modules write it, on characters. -/
theorem refused_iff {compact : List Char} :
    (Text.utf8Len compact ≠ 12 ∨ (!compact.all Char.isAlphanum) = true) ↔ ¬ Twelve compact := by
  rw [← checkCompact_iff]
  unfold checkCompact
  rw [all_utf8, Text.length_utf8]
  simp [imp_iff_not_or]

/-- **Behind the check no slice panics.** -/
theorem sliceRoomCode_eq {compact : List Char} (h : Twelve compact) :
    sliceRoomCode compact = some (String.ofList (formatRoomCode compact)) := by
  have hsingle : ∀ c ∈ compact, c.utf8Size = 1 := fun c hc => utf8Size_of_alphanum (h.2 c hc)
  have hlen : compact.length = 12 := h.1
  have hfirst : Text.slice compact 0 4 = some (compact.take 4) := Text.slice_of_single hsingle (by omega) (by omega)
  have hsecond : Text.slice compact 4 8 = some ((compact.drop 4).take 4) :=
    Text.slice_of_single hsingle (by omega) (by omega)
  have hthird : Text.slice compact 8 12 = some ((compact.drop 8).take 4) :=
    Text.slice_of_single hsingle (by omega) (by omega)
  unfold sliceRoomCode
  rw [hfirst, hsecond, hthird]
  rfl

theorem credentials_normalizeBytes (value : String) :
    Credentials.normalizeRoomCodeBytes value = some (Credentials.normalizeRoomCode value) := by
  unfold Credentials.normalizeRoomCodeBytes Credentials.normalizeRoomCode
  simp only
  by_cases htwelve : Twelve (compactRoomCode value.toList)
  · rw [checkCompact_iff.2 htwelve, if_neg (fun h => refused_iff.1 h htwelve), sliceRoomCode_eq htwelve]
    rfl
  · have hcheck : checkCompact (compactRoomCode value.toList) = false := by
      rw [Bool.eq_false_iff]
      exact fun h => htwelve (checkCompact_iff.1 h)
    rw [hcheck, if_pos (refused_iff.2 htwelve)]
    rfl

/-- The service has the body of the credentials' function. -/
theorem normalizeRoomCodeBytes_eq (value : String) :
    normalizeRoomCodeBytes value = Credentials.normalizeRoomCodeBytes value := by
  unfold normalizeRoomCodeBytes Credentials.normalizeRoomCodeBytes sliceRoomCode
  simp only
  split
  · rfl
  · cases Text.slice (compactRoomCode value.toList) 0 4 <;> cases Text.slice (compactRoomCode value.toList) 4 8 <;>
      cases Text.slice (compactRoomCode value.toList) 8 12 <;> rfl

theorem advertisementPathBytes_eq (roomCode : String) :
    advertisementPathBytes roomCode = (advertisementPath roomCode).map (fun name => String.ofList name ++ ".json") := by
  unfold advertisementPathBytes advertisementPath
  simp only
  by_cases htwelve : Twelve (compactRoomCode roomCode.toList)
  · rw [checkCompact_iff.2 htwelve, if_neg (fun h => refused_iff.1 h htwelve)]
    rfl
  · have hcheck : checkCompact (compactRoomCode roomCode.toList) = false := by
      rw [Bool.eq_false_iff]
      exact fun h => htwelve (checkCompact_iff.1 h)
    rw [hcheck, if_pos (refused_iff.2 htwelve)]
    rfl

/-! ## What a room code is -/

/-- The characters of a text without its hyphens and blanks. -/
def codeChars (value : String) : List Char := value.toList.filter (fun c => c ≠ '-' ∧ c ≠ ' ')

theorem isAlphanum_toUpper (c : Char) : c.toUpper.isAlphanum = c.isAlphanum := by
  by_cases halpha : c.isAlpha = true
  · simp only [Char.isAlphanum, Char.isAlpha_toUpper_eq_isAlpha, halpha, Bool.true_or]
  · have hlower : ¬ c.isLower = true := fun h => halpha (by simp [Char.isAlpha, h])
    rw [Char.toUpper_eq_of_not_isLower hlower]

theorem twelve_compact (value : String) : Twelve (compactRoomCode value.toList) ↔ Twelve (codeChars value) := by
  show Twelve ((codeChars value).map Char.toUpper) ↔ _
  unfold Twelve
  simp only [List.length_map, List.mem_map, forall_exists_index, and_imp, forall_apply_eq_imp_iff₂, isAlphanum_toUpper]

theorem normalizeRoomCode_eq_ok {value code : String} : normalizeRoomCode value = .ok code ↔
    Twelve (codeChars value) ∧ code = String.ofList (formatRoomCode (compactRoomCode value.toList)) := by
  rw [← twelve_compact]
  unfold normalizeRoomCode
  simp only
  by_cases htwelve : Twelve (compactRoomCode value.toList)
  · rw [if_neg (fun h => refused_iff.1 h htwelve), Except.ok.injEq, eq_comm]
    exact ⟨fun h => ⟨htwelve, h⟩, And.right⟩
  · rw [if_pos (refused_iff.2 htwelve)]
    exact ⟨fun h => (by cases h), fun h => absurd h.1 htwelve⟩

theorem advertisementPath_eq_ok {roomCode : String} {name : List Char} : advertisementPath roomCode = .ok name ↔
    Twelve (codeChars roomCode) ∧ name = compactRoomCode roomCode.toList := by
  rw [← twelve_compact]
  unfold advertisementPath
  simp only
  by_cases htwelve : Twelve (compactRoomCode roomCode.toList)
  · rw [if_neg (fun h => refused_iff.1 h htwelve), Except.ok.injEq, eq_comm]
    exact ⟨fun h => ⟨htwelve, h⟩, And.right⟩
  · rw [if_pos (refused_iff.2 htwelve)]
    exact ⟨fun h => (by cases h), fun h => absurd h.1 htwelve⟩

/-- **What a normalized code is**: the characters of the text in capitals, in three groups of four. -/
theorem normalizeRoomCode_groups {value code : String} (h : normalizeRoomCode value = .ok code) :
    ∃ a b c : List Char, a.length = 4 ∧ b.length = 4 ∧ c.length = 4 ∧
      a ++ b ++ c = (codeChars value).map Char.toUpper ∧ code.toList = a ++ '-' :: b ++ '-' :: c := by
  obtain ⟨htwelve, rfl⟩ := normalizeRoomCode_eq_ok.1 h
  obtain ⟨hlen, -⟩ := (twelve_compact value).2 htwelve
  refine ⟨(compactRoomCode value.toList).take 4, ((compactRoomCode value.toList).drop 4).take 4,
    ((compactRoomCode value.toList).drop 8).take 4, ?_, ?_, ?_, ?_, ?_⟩
  · rw [List.length_take, hlen]
    rfl
  · rw [List.length_take, List.length_drop, hlen]
    rfl
  · rw [List.length_take, List.length_drop, hlen]
    rfl
  · have hlast : ((compactRoomCode value.toList).drop 8).take 4 = (compactRoomCode value.toList).drop 8 := by
      rw [List.take_of_length_le (by rw [List.length_drop, hlen])]
    have hmiddle : (compactRoomCode value.toList).drop 8 = ((compactRoomCode value.toList).drop 4).drop 4 := by
      rw [List.drop_drop]
    rw [hlast, hmiddle, List.append_assoc, List.take_append_drop, List.take_append_drop]
    rfl
  · rw [String.toList_ofList]
    rfl

/-- **One rule for room codes**: neither normalization panics on any text, they agree, they accept exactly the texts whose
characters other than hyphens and blanks are twelve ASCII letters and digits, and these are the texts that name an
advertisement; what they return is the characters in capitals, in three groups of four, and is its own normal form. -/
theorem room_codes_normalize_alike (value : String) :
    ∃ result, normalizeRoomCodeBytes value = some result ∧ Credentials.normalizeRoomCodeBytes value = some result ∧
      ((∃ code, result = .ok code) ↔ Twelve (codeChars value)) ∧
      ((∃ path, advertisementPathBytes value = .ok path) ↔ Twelve (codeChars value)) ∧
      ∀ code, result = .ok code → normalizeRoomCodeBytes code = some (.ok code) ∧
        ∃ a b c : List Char, a.length = 4 ∧ b.length = 4 ∧ c.length = 4 ∧
          a ++ b ++ c = (codeChars value).map Char.toUpper ∧ code.toList = a ++ '-' :: b ++ '-' :: c := by
  have hservice : ∀ value, normalizeRoomCodeBytes value = some (normalizeRoomCode value) := fun value =>
    (normalizeRoomCodeBytes_eq value).trans (credentials_normalizeBytes value)
  refine ⟨normalizeRoomCode value, hservice value, credentials_normalizeBytes value, ?_, ?_, fun code hcode => ⟨?_, ?_⟩⟩
  · simp only [normalizeRoomCode_eq_ok, exists_and_left, exists_eq, and_true]
  · rw [advertisementPathBytes_eq]
    constructor
    · rintro ⟨path, hpath⟩
      cases hname : advertisementPath value with
      | error e => rw [hname] at hpath; cases hpath
      | ok name => exact (advertisementPath_eq_ok.1 hname).1
    · intro htwelve
      rw [advertisementPath_eq_ok.2 ⟨htwelve, rfl⟩]
      exact ⟨_, rfl⟩
  · rw [hservice, normalizeRoomCode_canonical (normalizeRoomCode_ok hcode)]
  · exact normalizeRoomCode_groups hcode

/-! ## The plugin's reading -/

/-- What `TryNormalize` counts and checks. -/
def pluginCompact (value : String) : List Char := (Text.trim value.toList).filter (· ≠ '-')

theorem isWhitespace_printable {c : Char} (h : 0x20 ≤ c.toNat ∧ c.toNat ≤ 0x7e) (hwhite : Text.isWhitespace c = true) :
    c = ' ' := by
  have hspace : c.toNat = ' '.toNat := by
    show c.toNat = 32
    simp only [Text.isWhitespace, Bool.or_eq_true, Bool.and_eq_true, decide_eq_true_eq, beq_iff_eq] at hwhite
    omega
  exact Char.toNat_inj.1 hspace

/-- **In printable ASCII a trimmed text without a blank has the characters of the whole.** -/
theorem pluginCompact_eq {value : String} (h : ∀ c ∈ value.toList, 0x20 ≤ c.toNat ∧ c.toNat ≤ 0x7e)
    (hblank : ' ' ∉ Text.trim value.toList) : pluginCompact value = codeChars value := by
  obtain ⟨l, r, hsplit, hl, hr⟩ := Text.exists_trim value.toList
  have houter : ∀ {s : List Char}, s ⊆ value.toList → (∀ c ∈ s, Text.isWhitespace c = true) →
      s.filter (fun c => c ≠ '-' ∧ c ≠ ' ') = [] := by
    intro s hs hwhite
    refine List.filter_eq_nil_iff.2 fun c hc => ?_
    rw [isWhitespace_printable (h c (hs hc)) (hwhite c hc)]
    decide
  have hleft : l ⊆ value.toList := fun c hc => by rw [hsplit]; simp [hc]
  have hright : r ⊆ value.toList := fun c hc => by rw [hsplit]; simp [hc]
  unfold pluginCompact codeChars
  rw [hsplit, List.filter_append, List.filter_append, houter hleft hl, houter hright hr, List.nil_append, List.append_nil,
    ← hsplit]
  refine List.filter_congr fun c hc => ?_
  have hne : c ≠ ' ' := fun heq => hblank (heq ▸ hc)
  simp [hne]

theorem tryNormalize_eq_some {value code : String} : RoomCode.tryNormalize (some value) = some code ↔
    Twelve (pluginCompact value) ∧ code = String.ofList (formatRoomCode ((pluginCompact value).map Char.toUpper)) := by
  have hcheck : ((pluginCompact value).length ≠ 12 ∨ (!(pluginCompact value).all Char.isAlphanum) = true) ↔
      ¬ Twelve (pluginCompact value) := by
    unfold Twelve
    rw [← List.all_eq_true]
    simp [imp_iff_not_or]
  have hformat : ∀ {upper : List Char}, upper.length = 12 →
      upper.take 4 ++ '-' :: (upper.drop 4).take 4 ++ '-' :: upper.drop 8 = formatRoomCode upper := by
    intro upper hlen
    unfold formatRoomCode
    rw [List.take_of_length_le (l := upper.drop 8) (by rw [List.length_drop, hlen])]
  unfold RoomCode.tryNormalize
  simp only [Option.bind_eq_bind, Option.bind_some]
  split
  · rename_i hwhite
    -- nothing is left of white space
    refine ⟨fun h => (by cases h), fun h => ?_⟩
    have hnil : pluginCompact value = [] := by
      unfold pluginCompact
      rw [Text.trim_eq_nil_of_all hwhite, List.filter_nil]
    rw [hnil] at h
    cases h.1.1
  · by_cases htwelve : Twelve (pluginCompact value)
    · have hlen : ((pluginCompact value).map Char.toUpper).length = 12 := by rw [List.length_map, htwelve.1]
      show (if (pluginCompact value).length ≠ 12 ∨ (!(pluginCompact value).all Char.isAlphanum) = true then none
        else some _) = some code ↔ _
      rw [if_neg (fun h => hcheck.1 h htwelve), Option.some.injEq, eq_comm, ← hformat hlen]
      exact ⟨fun h => ⟨htwelve, h⟩, And.right⟩
    · show (if (pluginCompact value).length ≠ 12 ∨ (!(pluginCompact value).all Char.isAlphanum) = true then none
        else some _) = some code ↔ _
      rw [if_pos (hcheck.2 htwelve)]
      exact ⟨fun h => (by cases h), fun h => absurd h.1 htwelve⟩

/-- **The plugin normalizes a printable text as the Helper does, unless a blank stands inside.** -/
theorem tryNormalize_printable {value code : String} (h : ∀ c ∈ value.toList, 0x20 ≤ c.toNat ∧ c.toNat ≤ 0x7e) :
    RoomCode.tryNormalize (some value) = some code ↔
      ' ' ∉ Text.trim value.toList ∧ normalizeRoomCode value = .ok code := by
  rw [tryNormalize_eq_some, normalizeRoomCode_eq_ok]
  constructor
  · rintro ⟨htwelve, rfl⟩
    have hblank : ' ' ∉ Text.trim value.toList := by
      intro hmem
      have hkept : ' ' ∈ pluginCompact value := List.mem_filter.2 ⟨hmem, by decide⟩
      exact absurd (htwelve.2 _ hkept) (by decide)
    rw [pluginCompact_eq h hblank] at htwelve ⊢
    exact ⟨hblank, htwelve, rfl⟩
  · rintro ⟨hblank, htwelve, rfl⟩
    rw [pluginCompact_eq h hblank]
    exact ⟨htwelve, rfl⟩

theorem isCodeChar_printable {c : Char} (h : isCodeChar c = true ∨ c = '-') : 0x21 ≤ c.toNat ∧ c.toNat ≤ 0x7e := by
  rcases h with h | rfl
  · have := isAlphanum_iff.1 (isCodeChar_facts h).2.2.2
    omega
  · decide

theorem tryNormalize_canonical {code : String} (h : CanonicalRoomCode code) :
    RoomCode.tryNormalize (some code) = some code := by
  have hchars : ∀ c ∈ code.toList, 0x21 ≤ c.toNat ∧ c.toNat ≤ 0x7e := by
    obtain ⟨x, y, z, -, -, -, hall, hcode⟩ := h
    intro c hc
    rw [hcode] at hc
    refine isCodeChar_printable ?_
    simp only [List.mem_append, List.mem_cons, List.append_assoc] at hc hall
    rcases hc with hc | (rfl | hc) | rfl | hc
    · exact Or.inl (hall c (Or.inl hc))
    · exact Or.inr rfl
    · exact Or.inl (hall c (Or.inr (Or.inl hc)))
    · exact Or.inr rfl
    · exact Or.inl (hall c (Or.inr (Or.inr hc)))
  have hblank : ' ' ∉ Text.trim code.toList := by
    intro hmem
    obtain ⟨l, r, hsplit, -, -⟩ := Text.exists_trim code.toList
    have := hchars ' ' (by rw [hsplit]; simp [hmem])
    exact absurd this (by decide)
  exact (tryNormalize_printable fun c hc => ⟨by have := hchars c hc; omega, (hchars c hc).2⟩).2
    ⟨hblank, normalizeRoomCode_canonical h⟩

/-- **What the plugin reads of a printable text**; the constructor of `RoomCode` changes nothing of it. -/
theorem tryParse_eq_some {value code : String} (h : ∀ c ∈ value.toList, 0x20 ≤ c.toNat ∧ c.toNat ≤ 0x7e) :
    RoomCode.tryParse (some value) = some code ↔ ' ' ∉ Text.trim value.toList ∧ normalizeRoomCode value = .ok code := by
  rw [← tryNormalize_printable h]
  unfold RoomCode.tryParse
  cases hfirst : RoomCode.tryNormalize (some value) with
  | none => exact ⟨fun hcode => (by cases hcode), fun hcode => (by cases hcode)⟩
  | some found =>
    have hcanonical := normalizeRoomCode_ok ((tryNormalize_printable h).1 hfirst).2
    show RoomCode.tryNormalize (some found) = some code ↔ _
    rw [tryNormalize_canonical hcanonical]

/-- **The plugin and the Helper read a printable text alike exactly where it has no inner blank or is no room code.** -/
theorem plugin_reads_room_codes_iff (value : String) (h : ∀ c ∈ value.toList, 0x20 ≤ c.toNat ∧ c.toNat ≤ 0x7e) :
    (((∃ code, RoomCode.tryParse (some value) = some code) ↔ ∃ code, normalizeRoomCode value = .ok code) ∧
      ∀ code code', RoomCode.tryParse (some value) = some code → normalizeRoomCode value = .ok code' → code = code') ↔
    ' ' ∉ Text.trim value.toList ∨ ¬ Twelve (codeChars value) := by
  constructor
  · rintro ⟨haccept, -⟩
    by_cases htwelve : Twelve (codeChars value)
    · obtain ⟨code, hcode⟩ := haccept.2 ⟨_, normalizeRoomCode_eq_ok.2 ⟨htwelve, rfl⟩⟩
      exact Or.inl ((tryParse_eq_some h).1 hcode).1
    · exact Or.inr htwelve
  · intro hcond
    refine ⟨⟨?_, ?_⟩, ?_⟩
    · rintro ⟨code, hcode⟩
      exact ⟨code, ((tryParse_eq_some h).1 hcode).2⟩
    · rintro ⟨code, hcode⟩
      have hblank := hcond.resolve_right (not_not_intro (normalizeRoomCode_eq_ok.1 hcode).1)
      exact ⟨code, (tryParse_eq_some h).2 ⟨hblank, hcode⟩⟩
    · intro code code' hcode hcode'
      exact Except.ok.inj (((tryParse_eq_some h).1 hcode).2.symm.trans hcode')

theorem hyphenated_code_is_read_alike :
    ((∃ code, RoomCode.tryParse (some " ab12-cd34-ef56 ") = some code) ↔
        ∃ code, normalizeRoomCode " ab12-cd34-ef56 " = .ok code) ∧
      ∀ code code', RoomCode.tryParse (some " ab12-cd34-ef56 ") = some code →
        normalizeRoomCode " ab12-cd34-ef56 " = .ok code' → code = code' :=
  (plugin_reads_room_codes_iff " ab12-cd34-ef56 " (by simp)).2 (Or.inl (by decide))

/-- **A code with blanks between its groups** is read by the Helper, and refused by the plugin before it is sent. -/
theorem spaced_code_is_refused_by_plugin : normalizeRoomCode "ab12 cd34-ef56" = .ok "AB12-CD34-EF56" ∧
    RoomCode.tryParse (some "ab12 cd34-ef56") = none := by
  constructor
  · decide
  · decide

end Terracotta
