import Terracotta.Backend
import Terracotta.Binary64
/-!
# The table of peers (`network/easytier_cli.rs`)

`parse_peer_table` knows nothing of the columns of the table: it tries its parsers on the cells of a row one after the other,
and keeps of all rows the sample it prefers.
-/

/-- **The least element of a list that comes first**, as where it stands. -/
theorem argmin_eq_some_iff_split {α β : Type} [LinearOrder β] (key : α → β) {l : List α} {x : α} :
    l.argmin key = some x ↔
      ∃ before after, l = before ++ x :: after ∧ (∀ y ∈ before, key x < key y) ∧ ∀ y ∈ after, key x ≤ key y := by
  classical
  rw [List.argmin_eq_some_iff]
  constructor
  · rintro ⟨hmem, hleast, hfirst⟩
    obtain ⟨before, after, rfl, hnot⟩ := List.eq_append_cons_of_mem hmem
    refine ⟨before, after, rfl, fun y hy => ?_, fun y hy => hleast y (by simp [hy])⟩
    -- an element of the same key would stand before the first `x`
    by_contra hle
    have hidx := hfirst y (by simp [hy]) (not_lt.1 hle)
    rw [List.idxOf_append_of_notMem hnot, List.idxOf_append_of_mem hy] at hidx
    have hlt := List.idxOf_lt_length_of_mem hy
    omega
  · rintro ⟨before, after, rfl, hbefore, hafter⟩
    have hnot : x ∉ before := fun h => lt_irrefl _ (hbefore x h)
    refine ⟨by simp, fun y hy => ?_, fun y hy hle => ?_⟩
    · rcases List.mem_append.1 hy with hy | hy
      · exact (hbefore y hy).le
      · rcases List.mem_cons.1 hy with rfl | hy
        · exact le_refl _
        · exact hafter y hy
    · have hybefore : y ∉ before := fun h => not_lt.2 hle (hbefore y h)
      rw [List.idxOf_append_of_notMem hnot, List.idxOf_append_of_notMem hybefore, List.idxOf_cons_self]
      omega

namespace Terracotta

/-! ## Cells -/

def asciiLower (s : List Char) : List Char := s.map Char.toLower

/-- `trim_end_matches("ms")`. -/
def trimEndMs (s : List Char) : List Char := (dropSm s.reverse).reverse
where
  dropSm : List Char → List Char
    | 's' :: 'm' :: rest => dropSm rest
    | s => s

def parseLatency (cell : List Char) : Option UInt32 :=
  let cleaned := Text.trim (trimEndMs (Text.trim cell))
  if cleaned = ['*'] then none else (F64.parse cleaned).map F64.roundToU32

def parseLoss (cell : List Char) : Option F64 :=
  let cleaned := Text.trim ((Text.trim cell).rdropWhile (· = '%'))
  if cleaned = ['*'] then none
  else (F64.parse cleaned).map (fun value => if value.gtOne then value.scale 1 100 else value)

def parseNat (cell : List Char) : Option (List Char) :=
  let lower := asciiLower cell
  if "cone".toList <:+: lower ∨ "symmetric".toList <:+: lower ∨ "unknown".toList <:+: lower ∨ "open".toList <:+: lower then
    some cell
  else none

/-- What the loop tries on every cell of a row. -/
structure CellParsers where
  latency : List Char → Option UInt32
  loss : List Char → Option F64
  nat : List Char → Option (List Char)

def cellParsers : CellParsers := ⟨parseLatency, parseLoss, parseNat⟩

def isCost (cell : List Char) : Bool :=
  ["local".toList, "p2p".toList, "relay".toList, "direct".toList].contains (asciiLower cell)

/-! ## Rows -/

/-- `str::lines`: a carriage return goes with the line feed behind it, and a text need not end with a line feed. -/
def lines (text : List Char) : List (List Char) :=
  let pieces := text.splitOn '\n'
  let last := pieces.getLast?.getD []
  pieces.dropLast.map (fun line => if line.getLast? = some '\r' then line.dropLast else line) ++
    if last = [] then [] else [last]

/-- `PeerQualitySample` as the table has it, with a loss rate. -/
structure PeerTableSample where
  natType : Option String
  latencyMs : Option UInt32
  lossRate : Option F64
  connectionMode : ConnectionMode
  relayNode : Option String
deriving DecidableEq

/-- The sample with its loss in percent, which is what becomes of it in `network_from_peer_sample`. -/
def PeerTableSample.quality (sample : PeerTableSample) : PeerQualitySample :=
  ⟨sample.natType, sample.latencyMs, sample.lossRate.map (F64.scale 100 1), sample.connectionMode, sample.relayNode⟩

def cellsOf (trimmed : List Char) : List (List Char) :=
  if '|' ∈ trimmed then ((trimmed.splitOn '|').map Text.trim).filter (· ≠ [])
  else (trimmed.splitOnP Text.isWhitespace).filter (· ≠ [])

def sampleOfCells (parsers : CellParsers) (cells : List (List Char)) : PeerTableSample :=
  let costText := ((cells.find? isCost).map asciiLower).getD []
  let latency := cells.findSome? parsers.latency
  let connectionMode : ConnectionMode :=
    if "relay".toList <:+: costText then .relay
    else if "p2p".toList <:+: costText ∨ "direct".toList <:+: costText ∨ costText = "local".toList ∨
      latency.isSome then .direct
    else .unknown
  { natType := (cells.findSome? parsers.nat).map String.ofList
    latencyMs := latency
    lossRate := cells.findSome? parsers.loss
    connectionMode := connectionMode
    relayNode := if connectionMode = .relay then some "easytier-relay" else none }

/-- The sample of a line, unless the line is skipped. -/
def sampleOfLine (parsers : CellParsers) (line : List Char) : Option PeerTableSample :=
  let trimmed := Text.trim line
  if trimmed = [] ∨ trimmed.head? = some '|' ∧ "ipv4".toList <:+: trimmed then none
  else
    let cells := cellsOf trimmed
    if cells.length < 5 then none
    else if (cells.find? isCost).isNone ∧ (cells.findSome? parsers.latency).isNone ∧
      (cells.findSome? parsers.nat).isNone then none
    else some (sampleOfCells parsers cells)

def preferSample (left right : PeerTableSample) : PeerTableSample :=
  match left.latencyMs, right.latencyMs with
  | some a, some b => if b < a then right else left
  | none, some _ => right
  | _, _ => left

/-- `parse_peer_table`, with any parsers of cells. -/
def parsePeerTableWith (parsers : CellParsers) (text : String) : Option PeerTableSample :=
  (lines text.toList).foldl (fun best line =>
    match sampleOfLine parsers line with
    | none => best
    | some sample => some (match best with
      | none => sample
      | some previous => preferSample previous sample)) none

def parsePeerTable (text : String) : Option PeerTableSample := parsePeerTableWith cellParsers text

/-! ## The preferred row -/

/-- The samples of the rows, which are the lines that are not skipped. -/
def rowSamples (parsers : CellParsers) (text : String) : List PeerTableSample :=
  (lines text.toList).filterMap (sampleOfLine parsers)

/-- The earliest of the rows that have the lowest latency; if none has one, the first. -/
def EarliestLowest {α : Type} (latency : α → Option UInt32) (rows : List α) (x : α) : Prop :=
  ∃ before after, rows = before ++ x :: after ∧
    match latency x with
    | some ms => (∀ y ∈ before, ∀ other, latency y = some other → ms < other) ∧
        ∀ y ∈ after, ∀ other, latency y = some other → ms ≤ other
    | none => before = [] ∧ ∀ y ∈ after, latency y = none

/-- A latency that is not there is above all others. -/
def latencyRank : Option UInt32 → WithTop Nat
  | some ms => ms.toNat
  | none => ⊤

theorem earliestLowest_iff {α : Type} (latency : α → Option UInt32) {rows : List α} {x : α} :
    EarliestLowest latency rows x ↔ rows.argmin (fun y => latencyRank (latency y)) = some x := by
  rw [argmin_eq_some_iff_split]
  unfold EarliestLowest
  refine exists_congr fun before => exists_congr fun after => and_congr_right fun _ => ?_
  cases hx : latency x with
  | some ms =>
    refine and_congr (forall₂_congr fun y _ => ?_) (forall₂_congr fun y _ => ?_)
    · cases latency y <;> simp [latencyRank, UInt32.lt_iff_toNat_lt]
    · cases latency y <;> simp [latencyRank, UInt32.le_iff_toNat_le]
  | none =>
    refine and_congr ⟨?_, fun h => ?_⟩ (forall₂_congr fun y _ => ?_)
    · rintro rfl
      simp
    · exact List.eq_nil_iff_forall_not_mem.2 (fun y hy => absurd (h y hy) not_top_lt)
    · cases latency y <;> simp [latencyRank]

theorem preferSample_eq (left right : PeerTableSample) : preferSample left right =
    if latencyRank right.latencyMs < latencyRank left.latencyMs then right else left := by
  unfold preferSample
  cases left.latencyMs <;> cases right.latencyMs <;> simp [latencyRank, UInt32.lt_iff_toNat_lt]

/-- **The loop looks for the least rank.** -/
theorem parsePeerTableWith_eq (parsers : CellParsers) (text : String) :
    parsePeerTableWith parsers text =
      (rowSamples parsers text).argmin (fun sample => latencyRank sample.latencyMs) := by
  unfold parsePeerTableWith rowSamples List.argmin
  rw [List.foldl_filterMap]
  congr 1
  funext best line
  cases sampleOfLine parsers line with
  | none => rfl
  | some sample =>
    cases best with
    | none => rfl
    | some previous =>
      simp only [List.argAux, preferSample_eq]
      split <;> rfl

theorem sampleOfCells_relay (parsers : CellParsers) (cells : List (List Char)) :
    (sampleOfCells parsers cells).relayNode.isSome = true ↔ (sampleOfCells parsers cells).connectionMode = .relay := by
  show (if (sampleOfCells parsers cells).connectionMode = .relay then some "easytier-relay" else none).isSome = true ↔ _
  split <;> simp [*]

theorem sampleOfLine_some {parsers : CellParsers} {line : List Char} (h : (sampleOfLine parsers line).isSome = true) :
    sampleOfLine parsers line = some (sampleOfCells parsers (cellsOf (Text.trim line))) := by
  unfold sampleOfLine at h ⊢
  simp only at h ⊢
  split at h
  · cases h
  · rename_i hblank
    split at h
    · cases h
    · rename_i hshort
      split at h
      · cases h
      · rename_i hnothing
        rw [if_neg hblank, if_neg hshort, if_neg hnothing]

theorem mem_rowSamples {parsers : CellParsers} {text : String} {sample : PeerTableSample}
    (h : sample ∈ rowSamples parsers text) : ∃ cells, sample = sampleOfCells parsers cells := by
  obtain ⟨line, -, hsample⟩ := List.mem_filterMap.1 h
  rw [sampleOfLine_some (by rw [hsample]; rfl)] at hsample
  exact ⟨_, (Option.some.inj hsample).symm⟩

/-- **What the table of peers comes to**: nothing if it has no rows, and else the sample of the earliest row with the lowest
latency, which names a relay if its mode is one. -/
theorem parsePeerTableWith_spec (parsers : CellParsers) (text : String) :
    (parsePeerTableWith parsers text = none ↔ rowSamples parsers text = []) ∧
    ∀ sample, (parsePeerTableWith parsers text = some sample ↔
        EarliestLowest PeerTableSample.latencyMs (rowSamples parsers text) sample) ∧
      (parsePeerTableWith parsers text = some sample →
        (sample.relayNode.isSome = true ↔ sample.connectionMode = .relay)) := by
  rw [parsePeerTableWith_eq]
  refine ⟨List.argmin_eq_none, fun sample => ⟨(earliestLowest_iff _).symm, fun h => ?_⟩⟩
  obtain ⟨cells, rfl⟩ := mem_rowSamples (List.argmin_mem h)
  exact sampleOfCells_relay parsers cells

/-- A row with a latency has a mode, so a network is healthy exactly if its mode is known. -/
theorem parsePeerTableWith_healthy {parsers : CellParsers} {text : String} {sample : PeerTableSample}
    (h : parsePeerTableWith parsers text = some sample) :
    (networkFromPeerSample sample.quality).isHealthy = true ↔
      (networkFromPeerSample sample.quality).connectionMode ≠ .unknown := by
  rw [parsePeerTableWith_eq] at h
  obtain ⟨cells, rfl⟩ := mem_rowSamples (List.argmin_mem h)
  have hmode : (sampleOfCells parsers cells).latencyMs.isSome = true →
      (sampleOfCells parsers cells).connectionMode ≠ .unknown := by
    intro hlatency
    have hlatency : (cells.findSome? parsers.latency).isSome = true := hlatency
    simp only [sampleOfCells, hlatency, or_true, if_true]
    split <;> simp
  simp only [networkFromPeerSample, PeerTableSample.quality, Bool.or_eq_true, bne_iff_ne]
  exact ⟨fun h => h.elim hmode id, .inr⟩

end Terracotta
