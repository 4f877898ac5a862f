import Terracotta.Credentials
import Terracotta.IdentityKey
import Terracotta.UnixPath
/-!
# The endpoint of the IPC (`LocalIpcEndpoint.cs`, `cli.rs`)

The plugin names the pipe or the socket after 16 random bytes and passes the name to the Helper it starts, which takes no
other kind of name.  What the Helper makes of paths is what `std::path::Path` does on Unix, and `LocalIpcEndpoint` puts its
path together as `System.IO.Path` does there.
-/
namespace Terracotta

/-! ## `cli.rs` -/

/-- `is_hex_nonce`.  No byte of a character outside ASCII is a digit. -/
def isHexNonce (value : List Char) (length : Nat) : Bool :=
  decide (Text.utf8Len value = length) && value.all (fun c => ('0' ≤ c && c ≤ '9') || ('a' ≤ c && c ≤ 'f'))

/-- `str::strip_prefix` and `str::strip_suffix`. -/
def stripStart (start value : List Char) : Option (List Char) :=
  if start <+: value then some (value.drop start.length) else none

def stripEnd (ending value : List Char) : Option (List Char) :=
  if ending <:+ value then some (value.take (value.length - ending.length)) else none

def pipeStart : List Char := "\\\\.\\pipe\\pcln-terracotta-".toList

def socketStart : List Char := "terracotta-".toList

def socketEnd : List Char := ".sock".toList

/-- `validate_ipc_endpoint` on Windows and on Unix, with the message of an error. -/
def validatePipe (endpoint : List Char) : Except String Unit :=
  match stripStart pipeStart endpoint with
  | none => .error "--ipc must use the Terracotta local named-pipe prefix"
  | some nonce => if isHexNonce nonce 32 then .ok () else .error "--ipc named-pipe nonce is invalid"

def validateSocket (endpoint : List Char) : Except String Unit :=
  if !UnixPath.isAbsolute endpoint then .error "--ipc must be an absolute Unix socket path"
  else match UnixPath.fileName endpoint with
    | none => .error "--ipc has no valid socket file name"
    | some name => match (stripStart socketStart name).bind (stripEnd socketEnd) with
      | none => .error "--ipc socket file name is invalid"
      | some nonce => if isHexNonce nonce 32 then .ok () else .error "--ipc socket nonce is invalid"

def validateIpcEndpoint (windows : Bool) (endpoint : List Char) : Except String Unit :=
  if windows then validatePipe endpoint else validateSocket endpoint

/-! ## `LocalIpcEndpoint.cs` -/

/-- `Convert.ToHexString(bytes).ToLowerInvariant()`. -/
def lowerHexString (bytes : List UInt8) : List Char := (toHexString bytes).toList.map Char.toLower

structure LocalIpcEndpoint where
  address : List Char
  ownedDirectory : Option (List Char)

def socketName (nonce : List Char) : List Char := socketStart ++ nonce ++ socketEnd

def LocalIpcEndpoint.create (windows : Bool) (workingDirectory pluginTemporaryDirectory : List Char)
    (random : Vector UInt8 16) : LocalIpcEndpoint :=
  let nonce := lowerHexString random.toList
  if windows then ⟨pipeStart ++ nonce, none⟩
  else
    let root := UnixPath.combine
      (UnixPath.combine (UnixPath.fullPathIn workingDirectory pluginTemporaryDirectory) "ipc".toList) (nonce.take 12)
    ⟨UnixPath.combine root (socketName nonce), some root⟩

/-! ## Which endpoints are taken -/

/-- 32 lowercase hexadecimal digits. -/
def IsNonce (nonce : List Char) : Prop := nonce.length = 32 ∧ ∀ c ∈ nonce, c ∈ "0123456789abcdef".toList

theorem hexNonce_digit (c : Char) : (('0' ≤ c && c ≤ '9') || ('a' ≤ c && c ≤ 'f')) = true ↔
    c ∈ "0123456789abcdef".toList := by
  constructor
  · intro h
    have hlt : c.toNat < 128 := by
      simp only [Bool.or_eq_true, Bool.and_eq_true, decide_eq_true_eq] at h
      rcases h with ⟨-, h⟩ | ⟨-, h⟩
      · have h : c.toNat ≤ '9'.toNat := UInt32.le_iff_toNat_le.1 h
        exact lt_of_le_of_lt h (by decide)
      · have h : c.toNat ≤ 'f'.toNat := UInt32.le_iff_toNat_le.1 h
        exact lt_of_le_of_lt h (by decide)
    have hall : ∀ n < 128, (('0' ≤ Char.ofNat n && Char.ofNat n ≤ '9') || ('a' ≤ Char.ofNat n && Char.ofNat n ≤ 'f')) = true →
        Char.ofNat n ∈ "0123456789abcdef".toList := by decide +kernel
    simpa only [Char.ofNat_toNat] using hall c.toNat hlt (by simpa only [Char.ofNat_toNat] using h)
  · intro h
    have hall : ("0123456789abcdef".toList.all fun d => ('0' ≤ d && d ≤ '9') || ('a' ≤ d && d ≤ 'f')) = true := by decide
    exact List.all_eq_true.1 hall c h

theorem IsNonce.utf8Len {nonce : List Char} (h : ∀ c ∈ nonce, c ∈ "0123456789abcdef".toList) :
    Text.utf8Len nonce = nonce.length := by
  refine utf8Len_of_ascii fun c hc => ?_
  have hall : ("0123456789abcdef".toList.all fun d => decide (d.toNat < 128)) = true := by decide
  exact of_decide_eq_true (List.all_eq_true.1 hall c (h c hc))

theorem isHexNonce_iff (value : List Char) : isHexNonce value 32 = true ↔ IsNonce value := by
  unfold isHexNonce IsNonce
  rw [Bool.and_eq_true, decide_eq_true_eq, List.all_eq_true]
  simp only [hexNonce_digit]
  constructor
  · rintro ⟨hlen, hall⟩
    exact ⟨(IsNonce.utf8Len hall).symm.trans hlen, hall⟩
  · rintro ⟨hlen, hall⟩
    exact ⟨(IsNonce.utf8Len hall).trans hlen, hall⟩

theorem stripStart_eq_some {start value rest : List Char} : stripStart start value = some rest ↔ value = start ++ rest := by
  unfold stripStart
  constructor
  · intro h
    split at h
    · rename_i hstart
      cases h
      obtain ⟨t, rfl⟩ := hstart
      rw [List.drop_left]
    · cases h
  · rintro rfl
    rw [if_pos (List.prefix_append _ _), List.drop_left]

theorem stripEnd_eq_some {ending value rest : List Char} : stripEnd ending value = some rest ↔ value = rest ++ ending := by
  unfold stripEnd
  constructor
  · intro h
    split at h
    · rename_i hending
      cases h
      obtain ⟨t, rfl⟩ := hending
      rw [List.length_append, Nat.add_sub_cancel, List.take_left]
    · cases h
  · rintro rfl
    rw [if_pos (List.suffix_append _ _), List.length_append, Nat.add_sub_cancel, List.take_left]

theorem socketNonce_eq_some {name nonce : List Char} :
    (stripStart socketStart name).bind (stripEnd socketEnd) = some nonce ↔ name = socketName nonce := by
  rw [Option.bind_eq_some_iff]
  constructor
  · rintro ⟨rest, hstart, hend⟩
    rw [stripStart_eq_some.1 hstart, stripEnd_eq_some.1 hend, socketName, List.append_assoc]
  · rintro rfl
    exact ⟨nonce ++ socketEnd, stripStart_eq_some.2 (List.append_assoc _ _ _), stripEnd_eq_some.2 rfl⟩

/-- **The names a Helper listens on**: on Windows the pipes of the plugin, on Unix the sockets of its name in any directory,
each with 32 lowercase digits. -/
theorem endpoint_is_taken_iff (windows : Bool) (endpoint : List Char) :
    validateIpcEndpoint windows endpoint = .ok () ↔ ∃ nonce, IsNonce nonce ∧
      (windows = true ∧ endpoint = pipeStart ++ nonce ∨
        windows = false ∧ UnixPath.isAbsolute endpoint = true ∧ UnixPath.fileName endpoint = some (socketName nonce)) := by
  cases windows with
  | true =>
    simp only [validateIpcEndpoint, if_true, validatePipe]
    constructor
    · intro h
      split at h
      · cases h
      · rename_i nonce hnonce
        split at h
        · rename_i hhex
          exact ⟨nonce, (isHexNonce_iff nonce).1 hhex, .inl ⟨trivial, stripStart_eq_some.1 hnonce⟩⟩
        · cases h
    · rintro ⟨nonce, hnonce, ⟨-, rfl⟩ | ⟨hno, -⟩⟩
      · rw [stripStart_eq_some.2 rfl]
        simp only
        rw [if_pos ((isHexNonce_iff nonce).2 hnonce)]
      · cases hno
  | false =>
    simp only [validateIpcEndpoint, Bool.false_eq_true, if_false, validateSocket]
    constructor
    · intro h
      split at h
      · cases h
      rename_i habsolute
      split at h
      · cases h
      rename_i name hname
      split at h
      · cases h
      rename_i nonce hnonce
      split at h
      · rename_i hhex
        refine ⟨nonce, (isHexNonce_iff nonce).1 hhex, .inr ⟨trivial, by simpa using habsolute, ?_⟩⟩
        rw [hname, socketNonce_eq_some.1 hnonce]
      · cases h
    · rintro ⟨nonce, hnonce, ⟨hno, -⟩ | ⟨-, habsolute, hname⟩⟩
      · cases hno
      · rw [if_neg (by simp [habsolute]), hname]
        simp only [socketNonce_eq_some.2 rfl]
        rw [if_pos ((isHexNonce_iff nonce).2 hnonce)]

/-! ## The plugin's own -/

theorem lowerHexString_eq (bytes : List UInt8) : lowerHexString bytes = hexEncode bytes := by
  have hdigit : ∀ n < 16, (upperHexDigits.getD n '0').toLower = hexDigit n := by decide
  unfold lowerHexString toHexString hexEncode
  rw [String.toList_ofList, List.map_flatMap]
  refine List.flatMap_congr fun byte _ => ?_
  have hbyte : byte.toNat < 256 := byte.toNat_lt
  simp only [List.map_cons, List.map_nil]
  rw [hdigit _ (by omega), hdigit _ (by omega)]

theorem lowerHexString_isNonce (random : Vector UInt8 16) : IsNonce (lowerHexString random.toList) := by
  rw [lowerHexString_eq]
  refine ⟨?_, fun c hc => hexEncode_digits hc⟩
  rw [length_hexEncode, Vector.length_toList]

theorem hexEncode_injective {bytes other : List UInt8} (h : hexEncode bytes = hexEncode other) : bytes = other := by
  have hread : ∀ bytes : List UInt8, hexBytes (hexEncode bytes) = some bytes := by
    intro bytes
    induction bytes with
    | nil => rfl
    | cons byte bytes ih =>
      have hdigit : ∀ n < 16, hexValue (hexDigit n) = some n ∧ hexDigit n ≠ '+' := by decide
      have hbyte : byte.toNat < 256 := byte.toNat_lt
      obtain ⟨hhigh, hsign⟩ := hdigit (byte.toNat / 16) (by omega)
      obtain ⟨hlow, -⟩ := hdigit (byte.toNat % 16) (by omega)
      show hexBytes (hexDigit (byte.toNat / 16) :: hexDigit (byte.toNat % 16) :: hexEncode bytes) = _
      simp only [hexBytes, hexByte, hlow, hhigh, if_neg hsign, ih, Option.pure_def, Option.bind_eq_bind, Option.bind_some,
        Nat.div_add_mod, UInt8.ofNat_toNat]
  exact Option.some.inj ((hread bytes).symm.trans ((congrArg hexBytes h).trans (hread other)))

theorem socketName_isName {nonce : List Char} (h : ∀ c ∈ nonce, c ∈ "0123456789abcdef".toList) :
    UnixPath.IsName (socketName nonce) ∧ socketName nonce ≠ UnixPath.up := by
  have hlong : 2 < (socketName nonce).length := by
    have hstart : socketStart.length = 11 := by decide
    unfold socketName
    rw [List.length_append, List.length_append, hstart]
    omega
  refine ⟨⟨fun hnil => ?_, fun hmem => ?_, fun hdot => ?_⟩, fun hup => ?_⟩
  · rw [hnil] at hlong
    simp at hlong
  · unfold socketName at hmem
    rcases List.mem_append.1 hmem with hmem | hmem
    · rcases List.mem_append.1 hmem with hmem | hmem
      · exact absurd hmem (by decide)
      · exact absurd (h _ hmem) (by decide)
    · exact absurd hmem (by decide)
  · rw [hdot] at hlong
    simp at hlong
  · rw [hup] at hlong
    simp [UnixPath.up] at hlong

theorem isAbsolute_of_isName {n : List Char} (h : UnixPath.IsName n) : UnixPath.isAbsolute n = false := by
  obtain ⟨c, n', rfl⟩ := List.exists_cons_of_ne_nil h.nonempty
  have hc : c ≠ '/' := by
    rintro rfl
    exact h.whole List.mem_cons_self
  simp [UnixPath.isAbsolute, hc]

/-- The socket in its directory. -/
theorem create_socket (workingDirectory temp : List Char) (random : Vector UInt8 16) :
    UnixPath.isAbsolute (LocalIpcEndpoint.create false workingDirectory temp random).address = true ∧
      UnixPath.fileName (LocalIpcEndpoint.create false workingDirectory temp random).address =
        some (socketName (lowerHexString random.toList)) := by
  obtain ⟨hname, hup⟩ := socketName_isName (lowerHexString_isNonce random).2
  have hroot : UnixPath.isAbsolute (UnixPath.fullPathIn workingDirectory temp) = true :=
    UnixPath.isAbsolute_fullPath _
  refine ⟨UnixPath.isAbsolute_combine (UnixPath.isAbsolute_combine (UnixPath.isAbsolute_combine hroot)), ?_⟩
  show UnixPath.fileName (UnixPath.combine _ (socketName (lowerHexString random.toList))) = _
  unfold UnixPath.fileName
  rw [UnixPath.names_combine (isAbsolute_of_isName hname), UnixPath.names_of_isName hname, List.getLast?_concat,
    Option.filter_some, if_pos (by simpa using hup)]

/-- **Every endpoint the plugin makes is one the Helper listens on**, from whatever temporary directory, and two of them are
the same only if their random bytes are. -/
theorem created_endpoint_is_taken (windows : Bool) (workingDirectory temp : List Char) (random other : Vector UInt8 16) :
    validateIpcEndpoint windows (LocalIpcEndpoint.create windows workingDirectory temp random).address = .ok () ∧
      ((LocalIpcEndpoint.create windows workingDirectory temp random).address =
        (LocalIpcEndpoint.create windows workingDirectory temp other).address → random = other) := by
  have hnonce : ∀ random other : Vector UInt8 16, lowerHexString random.toList = lowerHexString other.toList →
      random = other := by
    intro random other h
    rw [lowerHexString_eq, lowerHexString_eq] at h
    exact Vector.toList_inj.1 (hexEncode_injective h)
  rw [endpoint_is_taken_iff]
  cases windows with
  | true =>
    refine ⟨⟨_, lowerHexString_isNonce random, .inl ⟨rfl, rfl⟩⟩, fun h => hnonce random other ?_⟩
    exact List.append_cancel_left h
  | false =>
    obtain ⟨habsolute, hname⟩ := create_socket workingDirectory temp random
    refine ⟨⟨_, lowerHexString_isNonce random, .inr ⟨rfl, habsolute, hname⟩⟩, fun h => hnonce random other ?_⟩
    have hsame := hname.symm.trans ((congrArg UnixPath.fileName h).trans (create_socket workingDirectory temp other).2)
    exact List.append_cancel_left (List.append_cancel_right (Option.some.inj hsame))

end Terracotta
