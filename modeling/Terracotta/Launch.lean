import Terracotta.Duplex
import Terracotta.Endpoint
import Terracotta.Handshake
/-!
# A Helper is started (`HelperProcessManager.StartCoreAsync`, `main.rs`, `cli.rs`, `bootstrap.rs`)

The plugin passes the endpoint and the directories as arguments and the token of the session over standard input; the
Helper checks both before it listens, and the token once more when the first frame is there.  The arguments go through
`clap`, which is a parameter here.
-/
namespace Terracotta

open Json (Value)

/-- `HelperError`; an I/O error has a text of its own. -/
inductive HelperError
  | invalidArguments (message : String)
  | invalidBootstrapSecret
  | ipc
  | protocol (error : FrameError)
  | parent (message : String)

def HelperError.exitCode : HelperError → Nat
  | .invalidArguments _ => 2
  | .invalidBootstrapSecret => 3
  | .ipc => 4
  | .protocol _ => 5
  | .parent _ => 6

/-! ## `cli.rs` -/

structure Args where
  ipc : List Char
  parentPid : UInt32
  dataDir : List Char
  logDir : List Char
  protocolVersion : UInt32

structure ValidatedArgs where
  ipc : List Char
  parentPid : UInt32
  dataDir : List Char
  logDir : List Char

/-- Where the Helper runs; `isAbsolute` is `Path::is_absolute` there. -/
structure HelperPlatform where
  windows : Bool
  isAbsolute : List Char → Bool

def ensureAbsolute (platform : HelperPlatform) (path : List Char) (name : String) : Except HelperError Unit :=
  if !platform.isAbsolute path then .error (.invalidArguments (name ++ " must be an absolute path")) else .ok ()

def Args.validate (platform : HelperPlatform) (args : Args) : Except HelperError ValidatedArgs := do
  if args.parentPid = 0 then throw (.invalidArguments "--parent-pid must be greater than zero")
  if args.protocolVersion.toNat ≠ Terracotta.protocolVersion then
    throw (.invalidArguments ("unsupported --protocol-version " ++ toString args.protocolVersion.toNat))
  ensureAbsolute platform args.dataDir "--data-dir"
  ensureAbsolute platform args.logDir "--log-dir"
  match validateIpcEndpoint platform.windows args.ipc with
  | .error message => throw (.invalidArguments message)
  | .ok () => return { ipc := args.ipc, parentPid := args.parentPid, dataDir := args.dataDir, logDir := args.logDir }

/-! ## `bootstrap.rs` -/

/-- What a `read` of standard input returns. -/
inductive StdinRead
  | bytes (piece : List UInt8)
  | interrupted
  | failed

/-- `take(limit).read_to_end`: interrupted reads are tried again, and no bytes mean the end. -/
def takeToEnd : Nat → List StdinRead → Option (List UInt8)
  | 0, _ => some []
  | _ + 1, [] => some []
  | limit + 1, .interrupted :: reads => takeToEnd (limit + 1) reads
  | _ + 1, .failed :: _ => none
  | limit + 1, .bytes piece :: reads =>
    if piece = [] then some []
    else (takeToEnd (limit + 1 - piece.length) reads).map (fun more => piece.take (limit + 1) ++ more)

def isTokenByte (byte : UInt8) : Bool := (48 ≤ byte && byte ≤ 57) || (97 ≤ byte && byte ≤ 102)

/-- `SecretToken::read_from`. -/
def readSecretToken (reads : List StdinRead) : Except HelperError (List UInt8) :=
  match takeToEnd 65 reads with
  | none => .error .ipc
  | some bytes =>
    if bytes.length ≠ 64 ∨ !bytes.all isTokenByte then .error .invalidBootstrapSecret else .ok bytes

/-! ## `main.rs` -/

inductive HelperStart
  -- `clap` has ended the process
  | usage
  | failed (error : HelperError)
  | started (args : ValidatedArgs) (secret : List UInt8)

def helperMain (platform : HelperPlatform) (parse : List (List Char) → Option Args) (arguments : List (List Char))
    (reads : List StdinRead) : HelperStart :=
  match parse arguments with
  | none => .usage
  | some args => match args.validate platform with
    | .error error => .failed error
    | .ok args => match readSecretToken reads with
      | .error error => .failed error
      | .ok secret => .started args secret

/-! ## `StartCoreAsync` -/

def decimal (n : Nat) : List Char := (toString n).toList

/-- What the plugin passes to the process it starts. -/
structure PluginLaunch where
  endpoint : LocalIpcEndpoint
  /-- `Environment.ProcessId`. -/
  processId : Nat
  data : List Char
  logs : List Char
  random : Vector UInt8 32

def PluginLaunch.authenticationToken (launch : PluginLaunch) : List Char := lowerHexString launch.random.toList

def optionVector (ipc parentPid dataDir logDir version : List Char) : List (List Char) :=
  ["--ipc".toList, ipc, "--parent-pid".toList, parentPid, "--data-dir".toList, dataDir, "--log-dir".toList, logDir,
    "--protocol-version".toList, version]

def PluginLaunch.arguments (launch : PluginLaunch) : List (List Char) :=
  optionVector launch.endpoint.address (decimal launch.processId) launch.data launch.logs (decimal protocolVersion)

def startCore (windows : Bool) (workingDirectory temp data logs : List Char) (processId : Nat)
    (nonce : Vector UInt8 16) (random : Vector UInt8 32) : PluginLaunch :=
  { endpoint := LocalIpcEndpoint.create windows workingDirectory temp nonce, processId, data, logs, random }

/-- The first envelope of `HelperIpcClient.ConnectAsync`. -/
def PluginLaunch.hello (launch : PluginLaunch) (guid : BitVec 128) (pluginVersion : String) : Envelope :=
  ⟨protocolVersion, guidText guid, "hello", .obj [("authToken", .str (String.ofList launch.authenticationToken)),
    ("client", .str "pcln"), ("clientVersion", .str pluginVersion)]⟩

/-! ## The token on its way -/

/-- **The bytes that come before the end of standard input**, in whatever pieces. -/
inductive Delivers : List StdinRead → List UInt8 → Prop
  | ended : Delivers [] []
  | closed (reads : List StdinRead) : Delivers (.bytes [] :: reads) []
  | interrupted {reads : List StdinRead} {bytes : List UInt8} (h : Delivers reads bytes) :
    Delivers (.interrupted :: reads) bytes
  | piece {piece : List UInt8} {reads : List StdinRead} {bytes : List UInt8} (hpiece : piece ≠ [])
    (h : Delivers reads bytes) : Delivers (.bytes piece :: reads) (piece ++ bytes)

theorem Delivers.takeToEnd {reads : List StdinRead} {bytes : List UInt8} (h : Delivers reads bytes) (limit : Nat) :
    takeToEnd limit reads = some (bytes.take limit) := by
  induction h generalizing limit with
  | ended => cases limit <;> rfl
  | closed reads => cases limit <;> simp [Terracotta.takeToEnd]
  | interrupted h ih =>
    cases limit with
    | zero => simp [Terracotta.takeToEnd]
    | succ limit =>
      rw [Terracotta.takeToEnd]
      exact ih (limit + 1)
  | piece hpiece h ih =>
    cases limit with
    | zero => simp [Terracotta.takeToEnd]
    | succ limit =>
      rw [Terracotta.takeToEnd, if_neg hpiece, ih, Option.map_some, List.take_append]

/-- What is short of the limit is all there was. -/
theorem delivers_of_takeToEnd : ∀ {limit : Nat} {reads : List StdinRead} {bytes : List UInt8},
    takeToEnd limit reads = some bytes → bytes.length < limit → Delivers reads bytes
  | 0, _, _, _, hlen => absurd hlen (Nat.not_lt_zero _)
  | limit + 1, [], bytes, h, _ => by
    cases h
    exact .ended
  | limit + 1, .interrupted :: reads, bytes, h, hlen => by
    rw [takeToEnd] at h
    exact (delivers_of_takeToEnd h hlen).interrupted
  | limit + 1, .failed :: reads, bytes, h, _ => by cases h
  | limit + 1, .bytes piece :: reads, bytes, h, hlen => by
    rw [takeToEnd] at h
    split at h
    · rename_i hpiece
      cases h
      rw [hpiece]
      exact .closed reads
    · rename_i hpiece
      obtain ⟨more, hmore, rfl⟩ := Option.map_eq_some_iff.1 h
      rw [List.length_append, List.length_take] at hlen
      have hshort : piece.length ≤ limit + 1 := by omega
      rw [List.take_of_length_le hshort]
      exact .piece hpiece (delivers_of_takeToEnd hmore (by omega))

/-- **The token is read exactly if it is all there is**: 64 lowercase digits up to the end of standard input, in any
pieces and with any interruptions, and nothing behind them. -/
theorem secret_is_read_iff (reads : List StdinRead) (token : List UInt8) :
    readSecretToken reads = .ok token ↔
      Delivers reads token ∧ token.length = 64 ∧ ∀ byte ∈ token, isTokenByte byte = true := by
  unfold readSecretToken
  constructor
  · intro h
    split at h
    · cases h
    rename_i bytes hbytes
    split at h
    · cases h
    rename_i htoken
    cases h
    simp only [not_or, not_not, Bool.not_eq_true', Bool.not_eq_false, List.all_eq_true] at htoken
    exact ⟨delivers_of_takeToEnd hbytes (by omega), htoken.1, htoken.2⟩
  · rintro ⟨hdelivers, hlen, hdigits⟩
    rw [hdelivers.takeToEnd, List.take_of_length_le (by omega)]
    simp only
    rw [if_neg]
    simp [hlen, List.all_eq_true.2 hdigits]

theorem utf8_of_ascii : ∀ {text : List Char}, (∀ c ∈ text, c.toNat < 128) →
    Text.utf8 text = text.map (fun c => UInt8.ofNat c.toNat)
  | [], _ => rfl
  | c :: text, h => by
    show String.utf8EncodeChar c ++ Text.utf8 text = _
    rw [utf8EncodeChar_ascii (h c List.mem_cons_self), utf8_of_ascii fun d hd => h d (List.mem_cons_of_mem c hd)]
    rfl

theorem lowerHexString_digit {bytes : List UInt8} {c : Char} (hc : c ∈ lowerHexString bytes) :
    c.toNat < 128 ∧ isTokenByte (UInt8.ofNat c.toNat) = true ∧ Char.ofNat (UInt8.ofNat c.toNat).toNat = c := by
  rw [lowerHexString_eq] at hc
  have hall : ("0123456789abcdef".toList.all fun d => decide (d.toNat < 128) && isTokenByte (UInt8.ofNat d.toNat) &&
      decide (Char.ofNat (UInt8.ofNat d.toNat).toNat = d)) = true := by decide
  have hdigit := List.all_eq_true.1 hall c (hexEncode_digits hc)
  simp only [Bool.and_eq_true, decide_eq_true_eq] at hdigit
  exact ⟨hdigit.1.1, hdigit.1.2, hdigit.2⟩

/-- The plugin's token is one. -/
theorem token_digits (random : Vector UInt8 32) : (Text.utf8 (lowerHexString random.toList)).length = 64 ∧
    ∀ byte ∈ Text.utf8 (lowerHexString random.toList), isTokenByte byte = true := by
  rw [utf8_of_ascii fun c hc => (lowerHexString_digit hc).1]
  refine ⟨?_, fun byte hbyte => ?_⟩
  · rw [List.length_map, lowerHexString_eq, length_hexEncode, Vector.length_toList]
  · obtain ⟨c, hc, rfl⟩ := List.mem_map.1 hbyte
    exact (lowerHexString_digit hc).2.1

theorem utf8_lowerHexString_inj {random other : Vector UInt8 32}
    (h : Text.utf8 (lowerHexString random.toList) = Text.utf8 (lowerHexString other.toList)) : random = other := by
  have hback : ∀ bytes : List UInt8,
      (Text.utf8 (lowerHexString bytes)).map (fun byte => Char.ofNat byte.toNat) = lowerHexString bytes := by
    intro bytes
    rw [utf8_of_ascii fun c hc => (lowerHexString_digit hc).1, List.map_map]
    exact (List.map_congr_left fun c hc => (lowerHexString_digit hc).2.2).trans (List.map_id _)
  have htext : lowerHexString random.toList = lowerHexString other.toList := by
    rw [← hback, h, hback]
  rw [lowerHexString_eq, lowerHexString_eq] at htext
  exact Vector.toList_inj.1 (hexEncode_injective htext)

/-! ## A Helper and the plugin that started it -/

/-- A value `clap` does not take for an option. -/
def PlainValue (value : List Char) : Prop := value ≠ [] ∧ value.head? ≠ some '-'

instance (value : List Char) : Decidable (PlainValue value) := inferInstanceAs (Decidable (_ ∧ _))

/-- **What `clap` makes of five options with their values**: the fields of the same names. -/
structure ReadsOptions (parse : List (List Char) → Option Args) : Prop where
  reads : ∀ args : Args, PlainValue args.ipc → PlainValue args.dataDir → PlainValue args.logDir →
    parse (optionVector args.ipc (decimal args.parentPid.toNat) args.dataDir args.logDir
      (decimal args.protocolVersion.toNat)) = some args

theorem validRequestId_guidText (guid : BitVec 128) : validRequestId (guidText guid) = true := by
  have hdigits : ∀ c ∈ (guidText guid).toList, 0x20 ≤ c.toNat ∧ c.toNat ≤ 0x7e := by
    intro c hc
    unfold guidText at hc
    rw [String.toList_ofList] at hc
    obtain ⟨i, -, rfl⟩ := List.mem_map.1 hc
    have hall : ∀ n < 16, 0x20 ≤ (Json.hexDigit n).toNat ∧ (Json.hexDigit n).toNat ≤ 0x7e := by decide
    exact hall _ (Nat.mod_lt _ (by decide))
  have hlen : (guidText guid).toList.length = 32 := by
    unfold guidText
    rw [String.toList_ofList, List.length_map, List.length_range]
  have hutf8 : Text.utf8Len (guidText guid).toList = 32 := by
    rw [utf8Len_of_ascii fun c hc => Nat.lt_of_le_of_lt (hdigits c hc).2 (by decide), hlen]
  unfold validRequestId
  rw [hutf8]
  simp only [Bool.and_eq_true, decide_eq_true_eq, List.all_eq_true, Bool.not_eq_true', List.isEmpty_eq_false_iff]
  refine ⟨⟨fun hnil => ?_, by decide⟩, hdigits⟩
  rw [hnil] at hlen
  cases hlen

theorem created_plain (windows : Bool) (workingDirectory temp : List Char) (nonce : Vector UInt8 16) :
    PlainValue (LocalIpcEndpoint.create windows workingDirectory temp nonce).address := by
  cases windows with
  | true =>
    have hstart : pipeStart = '\\' :: pipeStart.tail := by decide
    show PlainValue (pipeStart ++ lowerHexString nonce.toList)
    rw [hstart, List.cons_append]
    refine ⟨List.cons_ne_nil _ _, ?_⟩
    rw [List.head?_cons]
    decide
  | false =>
    have habsolute := (create_socket workingDirectory temp nonce).1
    unfold UnixPath.isAbsolute at habsolute
    have hhead := eq_of_beq habsolute
    refine ⟨fun hnil => ?_, ?_⟩
    · rw [hnil] at hhead
      cases hhead
    · rw [hhead]
      decide

theorem validate_eq_ok {platform : HelperPlatform} {args : Args} (hpid : args.parentPid ≠ 0)
    (hversion : args.protocolVersion.toNat = protocolVersion) (hdata : platform.isAbsolute args.dataDir = true)
    (hlogs : platform.isAbsolute args.logDir = true) (hipc : validateIpcEndpoint platform.windows args.ipc = .ok ()) :
    args.validate platform = .ok ⟨args.ipc, args.parentPid, args.dataDir, args.logDir⟩ := by
  unfold Args.validate ensureAbsolute
  rw [if_neg hpid, if_neg (not_not.2 hversion), hdata, hlogs, hipc]
  rfl

/-- What a Helper has before it listens. -/
theorem helperMain_startCore {platform : HelperPlatform} {parse : List (List Char) → Option Args}
    (hparse : ReadsOptions parse) (workingDirectory temp : List Char) {data logs : List Char} {processId : Nat}
    (nonce : Vector UInt8 16) (random : Vector UInt8 32) {reads : List StdinRead}
    (hprocess : 0 < processId ∧ processId < 2 ^ 32) (hdata : PlainValue data ∧ platform.isAbsolute data = true)
    (hlogs : PlainValue logs ∧ platform.isAbsolute logs = true)
    (hreads : Delivers reads (Text.utf8 (lowerHexString random.toList))) :
    helperMain platform parse
      (startCore platform.windows workingDirectory temp data logs processId nonce random).arguments reads =
        .started ⟨(LocalIpcEndpoint.create platform.windows workingDirectory temp nonce).address,
          UInt32.ofNat processId, data, logs⟩ (Text.utf8 (lowerHexString random.toList)) := by
  have hpid : (UInt32.ofNat processId).toNat = processId := UInt32.toNat_ofNat_of_lt' hprocess.2
  have hparsed := hparse.reads ⟨(LocalIpcEndpoint.create platform.windows workingDirectory temp nonce).address,
    UInt32.ofNat processId, data, logs, 1⟩ (created_plain _ _ _ _) hdata.1 hlogs.1
  dsimp only at hparsed
  rw [hpid] at hparsed
  have hnonzero : UInt32.ofNat processId ≠ 0 := by
    intro hzero
    rw [hzero] at hpid
    exact absurd hpid hprocess.1.ne
  have hvalid := @validate_eq_ok platform ⟨(LocalIpcEndpoint.create platform.windows workingDirectory temp nonce).address,
    UInt32.ofNat processId, data, logs, 1⟩ hnonzero rfl hdata.2 hlogs.2 (created_endpoint_is_taken _ _ _ nonce nonce).1
  obtain ⟨hlen, hdigits⟩ := token_digits random
  have hsecret := (secret_is_read_iff reads _).2 ⟨hreads, hlen, hdigits⟩
  have harguments : (startCore platform.windows workingDirectory temp data logs processId nonce random).arguments =
      optionVector (LocalIpcEndpoint.create platform.windows workingDirectory temp nonce).address (decimal processId) data
        logs (decimal (UInt32.toNat 1)) := rfl
  unfold helperMain
  rw [harguments, hparsed]
  simp only
  rw [hvalid]
  simp only
  rw [hsecret]

theorem hello_payload (launch : PluginLaunch) (guid : BitVec 128) (pluginVersion : String) :
    HelloRequest.fromValue (launch.hello guid pluginVersion).payload =
      some ⟨String.ofList launch.authenticationToken, "pcln", pluginVersion⟩ := rfl

/-- **A hello opens the session exactly with the token of the start.** -/
theorem hello_admitted_iff {w : Wiring} (hw : w.capacity = none) (random : Vector UInt8 32) (room : RoomService)
    {arrivals : Arrivals} {launch : PluginLaunch} {guid : BitVec 128} {pluginVersion : String}
    (hversion : Text.trim pluginVersion.toList ≠ [])
    (hfirst : firstFrame w arrivals = .ok (launch.hello guid pluginVersion)) :
    (Session.handshake w (Text.utf8 (lowerHexString random.toList)) room arrivals).ended = none ↔
      launch.random = random := by
  rw [(Session.handshake_shows_the_secret_to_its_bearer w room arrivals).2 hw]
  constructor
  · rintro ⟨first, hwelcome⟩
    obtain ⟨hello, hpayload, htoken, -⟩ := hwelcome.payload
    have hsame := hfirst.symm.trans (Session.firstFrame_of_drive hwelcome.inTime)
    obtain rfl := Except.ok.inj hsame
    rw [hello_payload] at hpayload
    obtain rfl := Option.some.inj hpayload
    rw [String.toList_ofList] at htoken
    exact utf8_lowerHexString_inj htoken
  · rintro rfl
    refine ⟨launch.hello guid pluginVersion, Session.firstFrame_ok hfirst, rfl, rfl, validRequestId_guidText guid, _,
      hello_payload launch guid pluginVersion, ?_, rfl, hversion⟩
    rw [String.toList_ofList]
    rfl

/-- **A Helper runs for the plugin that started it**: whatever pieces its token comes in, the Helper listens on the
endpoint the plugin has made, with its directories and its process; and the first hello it admits to its session is one
that carries the token of this start, and of no other. -/
theorem launched_helper_admits_its_own (platform : HelperPlatform) (parse : List (List Char) → Option Args)
    (hparse : ReadsOptions parse) (workingDirectory temp data logs : List Char) (processId : Nat)
    (nonce : Vector UInt8 16) (random : Vector UInt8 32) (reads : List StdinRead)
    (hprocess : 0 < processId ∧ processId < 2 ^ 32) (hdata : PlainValue data ∧ platform.isAbsolute data = true)
    (hlogs : PlainValue logs ∧ platform.isAbsolute logs = true)
    (hreads : Delivers reads (Text.utf8 (lowerHexString random.toList))) :
    ∃ args secret,
      helperMain platform parse
        (startCore platform.windows workingDirectory temp data logs processId nonce random).arguments reads =
        .started args secret ∧
      args.ipc = (LocalIpcEndpoint.create platform.windows workingDirectory temp nonce).address ∧
      args.parentPid.toNat = processId ∧ args.dataDir = data ∧ args.logDir = logs ∧
      ∀ (w : Wiring) (room : RoomService) (arrivals : Arrivals) (other : PluginLaunch) (guid : BitVec 128)
        (pluginVersion : String), w.capacity = none → Text.trim pluginVersion.toList ≠ [] →
        firstFrame w arrivals = .ok (other.hello guid pluginVersion) →
        ((Session.handshake w secret room arrivals).ended = none ↔ other.random = random) := by
  refine ⟨_, _, helperMain_startCore hparse workingDirectory temp nonce random hprocess hdata hlogs hreads, rfl,
    UInt32.toNat_ofNat_of_lt' hprocess.2, rfl, rfl, fun w room arrivals other guid pluginVersion hw hversion hfirst => ?_⟩
  exact hello_admitted_iff hw random room hversion hfirst

/-- Five options in the order in which the plugin writes them. -/
def readFive : List (List Char) → Option Args
  | [ipcName, ipc, pidName, pid, dataName, dataDir, logName, logDir, versionName, version] =>
    if optionVector [] [] [] [] [] = [ipcName, [], pidName, [], dataName, [], logName, [], versionName, []] then
      some ⟨ipc, UInt32.ofNat (Nat.ofDigitChars 10 pid 0), dataDir, logDir, UInt32.ofNat (Nat.ofDigitChars 10 version 0)⟩
    else none
  | _ => none

theorem readFive_reads : ReadsOptions readFive where
  reads args _ _ _ := by
    have hdecimal : ∀ n : UInt32, UInt32.ofNat (Nat.ofDigitChars 10 (decimal n.toNat) 0) = n := by
      intro n
      have hdigits : decimal n.toNat = Nat.toDigits 10 n.toNat := by
        unfold decimal
        rw [show toString n.toNat = String.ofList (Nat.toDigits 10 n.toNat) from Nat.repr_eq_ofList_toDigits,
          String.toList_ofList]
      rw [hdigits, Nat.ofDigitChars_ten_toDigits, UInt32.ofNat_toNat]
    have hnames : ∀ ipc pid dataDir logDir version : List Char,
        readFive (optionVector ipc pid dataDir logDir version) = some ⟨ipc, UInt32.ofNat (Nat.ofDigitChars 10 pid 0),
          dataDir, logDir, UInt32.ofNat (Nat.ofDigitChars 10 version 0)⟩ := by
      intro ipc pid dataDir logDir version
      simp only [readFive, optionVector, if_true]
    rw [hnames, hdecimal, hdecimal]

def sampleToken : Vector UInt8 32 := Vector.replicate 32 7

/-- A Helper on Linux whose first read is interrupted. -/
theorem sample_launch : ∃ args secret,
    helperMain ⟨false, UnixPath.isAbsolute⟩ readFive
      (startCore false "/".toList "/tmp".toList "/data".toList "/logs".toList 7 (Vector.replicate 16 1) sampleToken).arguments
      [.interrupted, .bytes (Text.utf8 (lowerHexString sampleToken.toList))] = .started args secret ∧
    args.parentPid.toNat = 7 ∧
    ∀ (w : Wiring) (room : RoomService) (arrivals : Arrivals) (other : PluginLaunch) (guid : BitVec 128)
      (pluginVersion : String), w.capacity = none → Text.trim pluginVersion.toList ≠ [] →
      firstFrame w arrivals = .ok (other.hello guid pluginVersion) →
      ((Session.handshake w secret room arrivals).ended = none ↔ other.random = sampleToken) := by
  have hreads : Delivers [.interrupted, .bytes (Text.utf8 (lowerHexString sampleToken.toList))]
      (Text.utf8 (lowerHexString sampleToken.toList)) := by
    have hpiece : Text.utf8 (lowerHexString sampleToken.toList) ≠ [] := by
      intro hnil
      have hlen := (token_digits sampleToken).1
      rw [hnil] at hlen
      cases hlen
    have hdelivers := Delivers.piece hpiece .ended
    rw [List.append_nil] at hdelivers
    exact hdelivers.interrupted
  have hplain : ∀ path ∈ ["/data".toList, "/logs".toList], PlainValue path ∧ UnixPath.isAbsolute path = true := by
    decide
  obtain ⟨args, secret, hmain, -, hpid, -, -, hadmits⟩ := launched_helper_admits_its_own ⟨false, UnixPath.isAbsolute⟩
    readFive readFive_reads "/".toList "/tmp".toList "/data".toList "/logs".toList 7 (Vector.replicate 16 1) sampleToken _
    (by decide) (hplain _ (by simp)) (hplain _ (by simp)) hreads
  exact ⟨args, secret, hmain, hpid, hadmits⟩

end Terracotta
