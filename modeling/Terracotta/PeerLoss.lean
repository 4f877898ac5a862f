import Terracotta.PeerTable
/-!
# The loss of a peer

Of the cells of a row `parse_peer_table` takes the first that reads as a loss.  The latency stands before the loss, and a
latency without its unit reads as one.
-/
namespace Terracotta

/-! ## Rows of the six columns -/

/-- What stands between the pipes of a row. -/
structure PeerRow where
  ipv4 : List Char
  hostname : List Char
  cost : List Char
  latMs : List Char
  lossRate : List Char
  natType : List Char
  noPipe : ∀ field ∈ [ipv4, hostname, cost, latMs, lossRate, natType], '|' ∉ field

namespace PeerRow

def fields (row : PeerRow) : List (List Char) :=
  [row.ipv4, row.hostname, row.cost, row.latMs, row.lossRate, row.natType]

/-- The row as a line, which may start and end with a pipe. -/
def line (row : PeerRow) (left right : Bool) : List Char :=
  ['|'].intercalate ((if left then [[]] else []) ++ row.fields ++ if right then [[]] else [])

def cells (row : PeerRow) : List (List Char) := (row.fields.map Text.trim).filter (· ≠ [])

/-- The latency the row is known by; a cost that reads as one comes before it. -/
def latency (row : PeerRow) : Option UInt32 := (parseLatency row.cost).or (parseLatency row.latMs)

/-- The addresses and names read as no number, the latency and the loss as one. -/
structure Typed (row : PeerRow) : Prop where
  ipv4 : parseLatency row.ipv4 = none ∧ parseLoss row.ipv4 = none
  hostname : parseLatency row.hostname = none ∧ parseLoss row.hostname = none
  latMs : (parseLatency row.latMs).isSome = true
  lossRate : (parseLoss row.lossRate).isSome = true

/-- **When the loss is read from its cell**: neither the cost nor the latency reads as a loss, or the first that does reads as
what the cell says. -/
def ReadsLossCell (row : PeerRow) : Prop :=
  (parseLoss row.cost).or (parseLoss row.latMs) = none ∨
    (parseLoss row.cost).or (parseLoss row.latMs) = parseLoss row.lossRate

theorem cellsOf_line (row : PeerRow) (left right : Bool) : cellsOf (row.line left right) = row.cells := by
  have hsplit : (row.line left right).splitOn '|' =
      (if left then [[]] else []) ++ row.fields ++ if right then [[]] else [] := by
    refine List.splitOn_intercalate '|' (fun field hfield => ?_) (by simp [fields])
    have hmem : field = [] ∨ field ∈ row.fields := by
      cases left <;> cases right <;> simp at hfield <;> tauto
    rcases hmem with rfl | hmem
    · exact List.not_mem_nil
    · exact row.noPipe field hmem
  have hpipe : '|' ∈ row.line left right := by
    cases left <;> cases right <;> simp [line, fields, List.intercalate]
  have htrim : Text.trim [] = [] := rfl
  rw [cellsOf, if_pos hpipe, hsplit]
  cases left <;> cases right <;> simp [cells, htrim]

end PeerRow

/-- The lines of the text that are not skipped are the rows. -/
def IsPeerTable (text : String) (rows : List PeerRow) : Prop :=
  List.Forall₂ (fun line (row : PeerRow) => ∃ left right, Text.trim line = row.line left right)
    ((lines text.toList).filter (fun line => (sampleOfLine cellParsers line).isSome)) rows

theorem rowSamples_table {text : String} {rows : List PeerRow} (h : IsPeerTable text rows) :
    rowSamples cellParsers text = rows.map (fun row => sampleOfCells cellParsers row.cells) := by
  have hkept : ∀ l : List (List Char), l.filterMap (sampleOfLine cellParsers) =
      (l.filter (fun line => (sampleOfLine cellParsers line).isSome)).map
        (fun line => sampleOfCells cellParsers (cellsOf (Text.trim line))) := by
    intro l
    induction l with
    | nil => rfl
    | cons line l ih =>
      cases hline : sampleOfLine cellParsers line with
      | none => simp [hline, ih]
      | some sample =>
        have hsome := sampleOfLine_some (by rw [hline]; rfl)
        rw [hline] at hsome
        cases hsome
        simp [hline, ih]
  rw [rowSamples, hkept]
  unfold IsPeerTable at h
  generalize (lines text.toList).filter (fun line => (sampleOfLine cellParsers line).isSome) = kept at h
  induction h with
  | nil => rfl
  | cons hline _ ih =>
    obtain ⟨left, right, hline⟩ := hline
    rw [List.map_cons, List.map_cons, ih, hline, PeerRow.cellsOf_line]

/-! ## The loss that is reported -/

theorem parseLatency_trim (cell : List Char) : parseLatency (Text.trim cell) = parseLatency cell := by
  rw [parseLatency, parseLatency, Text.trim_trim]

theorem parseLoss_trim (cell : List Char) : parseLoss (Text.trim cell) = parseLoss cell := by
  rw [parseLoss, parseLoss, Text.trim_trim]

namespace PeerRow

/-- Blank cells are left out, and a parser of numbers would not have read them. -/
theorem findSome_cells {α : Type} {parser : List Char → Option α} (htrim : ∀ cell, parser (Text.trim cell) = parser cell)
    (hblank : parser [] = none) (row : PeerRow) : row.cells.findSome? parser = row.fields.findSome? parser := by
  unfold cells
  induction row.fields with
  | nil => rfl
  | cons field fields ih =>
    rw [List.map_cons, List.findSome?_cons, ← htrim field]
    by_cases hfield : Text.trim field = []
    · rw [hfield, List.filter_cons_of_neg (by simp), ih, hblank]
    · rw [List.filter_cons_of_pos (by simpa using hfield), List.findSome?_cons, ih]

variable {row : PeerRow}

theorem Typed.latency_eq (h : row.Typed) : row.cells.findSome? parseLatency = row.latency := by
  obtain ⟨ms, hms⟩ := Option.isSome_iff_exists.1 h.latMs
  rw [findSome_cells parseLatency_trim rfl, fields, latency]
  simp only [List.findSome?_cons, h.ipv4.1, h.hostname.1, hms]
  cases parseLatency row.cost <;> rfl

/-- **The loss of a row**: the cost is tried first, then the latency, and the cell of the loss only then. -/
theorem Typed.loss_eq (h : row.Typed) : row.cells.findSome? parseLoss =
    ((parseLoss row.cost).or (parseLoss row.latMs)).or (parseLoss row.lossRate) := by
  obtain ⟨rate, hrate⟩ := Option.isSome_iff_exists.1 h.lossRate
  rw [findSome_cells parseLoss_trim rfl, fields]
  simp only [List.findSome?_cons, h.ipv4.2, h.hostname.2, hrate]
  cases parseLoss row.cost <;> cases parseLoss row.latMs <;> rfl

end PeerRow

/-- **The sample is that of the chosen row**, whatever loss it has. -/
theorem parsePeerTable_loss {text : String} {rows : List PeerRow} {row : PeerRow} (htable : IsPeerTable text rows)
    (htyped : ∀ row ∈ rows, row.Typed) (hchosen : EarliestLowest PeerRow.latency rows row) :
    (parsePeerTable text).bind (·.lossRate) =
      ((parseLoss row.cost).or (parseLoss row.latMs)).or (parseLoss row.lossRate) := by
  have hmem : row ∈ rows := by
    obtain ⟨before, after, rfl, -⟩ := hchosen
    simp
  have hlatency : ∀ row ∈ rows, (sampleOfCells cellParsers row.cells).latencyMs = row.latency :=
    fun row hrow => (htyped row hrow).latency_eq
  have hsample : parsePeerTable text = some (sampleOfCells cellParsers row.cells) := by
    rw [parsePeerTable, parsePeerTableWith_eq, rowSamples_table htable, ← earliestLowest_iff]
    obtain ⟨before, after, rfl, hlowest⟩ := hchosen
    refine ⟨before.map _, after.map _, by rw [List.map_append, List.map_cons], ?_⟩
    simp only [List.forall_mem_map, List.map_eq_nil_iff]
    rw [hlatency row hmem]
    have hbefore : ∀ y ∈ before, (sampleOfCells cellParsers y.cells).latencyMs = y.latency :=
      fun y hy => hlatency y (by simp [hy])
    have hafter : ∀ y ∈ after, (sampleOfCells cellParsers y.cells).latencyMs = y.latency :=
      fun y hy => hlatency y (by simp [hy])
    cases hrow : row.latency with
    | some ms =>
      rw [hrow] at hlowest
      exact ⟨fun y hy => hbefore y hy ▸ hlowest.1 y hy, fun y hy => hafter y hy ▸ hlowest.2 y hy⟩
    | none =>
      rw [hrow] at hlowest
      exact ⟨hlowest.1, fun y hy => hafter y hy ▸ hlowest.2 y hy⟩
  rw [hsample]
  exact (htyped row hmem).loss_eq

/-- **A table reports the loss of the chosen row's cell exactly if nothing before that cell reads as another loss**; where
this holds of two tables, what else is in them makes no difference. -/
theorem peer_loss_iff {text : String} {rows : List PeerRow} {row : PeerRow} (htable : IsPeerTable text rows)
    (htyped : ∀ row ∈ rows, row.Typed) (hchosen : EarliestLowest PeerRow.latency rows row) :
    ((parsePeerTable text).bind (·.lossRate) = parseLoss row.lossRate ↔ row.ReadsLossCell) ∧
    ∀ (text' : String) (rows' : List PeerRow) (row' : PeerRow), IsPeerTable text' rows' → (∀ row ∈ rows', row.Typed) →
      EarliestLowest PeerRow.latency rows' row' → row'.lossRate = row.lossRate → row.ReadsLossCell →
      row'.ReadsLossCell →
      (parsePeerTable text).bind (·.lossRate) = (parsePeerTable text').bind (·.lossRate) := by
  have hreads : ∀ {text : String} {rows : List PeerRow} {row : PeerRow}, IsPeerTable text rows →
      (∀ row ∈ rows, row.Typed) → EarliestLowest PeerRow.latency rows row →
      ((parsePeerTable text).bind (·.lossRate) = parseLoss row.lossRate ↔ row.ReadsLossCell) := by
    intro text rows row htable htyped hchosen
    rw [parsePeerTable_loss htable htyped hchosen, PeerRow.ReadsLossCell]
    cases (parseLoss row.cost).or (parseLoss row.latMs) <;> simp
  refine ⟨hreads htable htyped hchosen, ?_⟩
  intro text' rows' row' htable' htyped' hchosen' hcell hreadsCell hreadsCell'
  rw [(hreads htable htyped hchosen).2 hreadsCell, (hreads htable' htyped' hchosen').2 hreadsCell', hcell]

/-- **A latency that is a plain number reads as a loss.** -/
theorem parseLoss_of_number {cell : List Char} {value : F64} (hnumber : F64.parse (Text.trim cell) = some value)
    (hpercent : (Text.trim cell).getLast? ≠ some '%') :
    parseLoss cell = some (if value.gtOne then value.scale 1 100 else value) := by
  have hkept : (Text.trim cell).rdropWhile (· = '%') = Text.trim cell := by
    refine List.rdropWhile_eq_self_iff.2 (fun hne hlast => hpercent ?_)
    rw [List.getLast?_eq_some_getLast hne, of_decide_eq_true hlast]
  have hstar : Text.trim cell ≠ ['*'] := by
    intro h
    rw [h] at hnumber
    cases hnumber
  unfold parseLoss
  simp only
  rw [hkept, Text.trim_trim, if_neg hstar, hnumber]
  rfl

/-- Where the latency of the chosen row is a plain number, the loss is that number or a hundredth of it. -/
theorem parsePeerTable_loss_of_number {text : String} {rows : List PeerRow} {row : PeerRow}
    (htable : IsPeerTable text rows) (htyped : ∀ row ∈ rows, row.Typed)
    (hchosen : EarliestLowest PeerRow.latency rows row) (hcost : parseLoss row.cost = none) {value : F64}
    (hnumber : F64.parse (Text.trim row.latMs) = some value) (hpercent : (Text.trim row.latMs).getLast? ≠ some '%') :
    (parsePeerTable text).bind (·.lossRate) = some (if value.gtOne then value.scale 1 100 else value) := by
  rw [parsePeerTable_loss htable htyped hchosen, hcost, parseLoss_of_number hnumber hpercent]
  rfl

/-! ## Tables as the tool prints them -/

/-- The line over the rows. -/
def peerHeader : List Char :=
  ['|'].intercalate ([] :: [" ipv4 ", " hostname ", " cost ", " lat_ms ", " loss_rate ", " nat_type "].map String.toList ++ [[]])

def peerText (rows : List PeerRow) : String :=
  String.ofList (['\n'].intercalate (peerHeader :: rows.map (·.line true true) ++ [[]]))

theorem trim_of_pipes {s : List Char} (hhead : s.head? = some '|') (hlast : s.getLast? = some '|') : Text.trim s = s := by
  have hpipe : Text.isWhitespace '|' = false := by decide
  cases s with
  | nil => cases hhead
  | cons c s =>
    cases hhead
    rw [Text.trim, List.dropWhile_cons_of_neg (by rw [hpipe]; exact Bool.false_ne_true), List.rdropWhile_eq_self_iff]
    intro hne
    rw [List.getLast?_eq_some_getLast hne] at hlast
    rw [Option.some.inj hlast, hpipe]
    exact Bool.false_ne_true

theorem PeerRow.line_ends (row : PeerRow) :
    (row.line true true).head? = some '|' ∧ (row.line true true).getLast? = some '|' := by
  have hline : row.line true true = ('|' :: (row.ipv4 ++ '|' :: (row.hostname ++ '|' :: (row.cost ++ '|' ::
      (row.latMs ++ '|' :: (row.lossRate ++ '|' :: row.natType)))))) ++ ['|'] := by
    simp [line, fields, List.intercalate]
  rw [hline, List.getLast?_concat]
  exact ⟨rfl, rfl⟩

/-- **What is printed of rows that are not skipped is a table of them.** -/
theorem isPeerTable_peerText {rows : List PeerRow} (hline : ∀ row ∈ rows, '\n' ∉ row.line true true)
    (hkept : ∀ row ∈ rows, (sampleOfLine cellParsers (row.line true true)).isSome = true) :
    IsPeerTable (peerText rows) rows := by
  have hheader : '\n' ∉ peerHeader ∧ peerHeader.getLast? = some '|' ∧ sampleOfLine cellParsers peerHeader = none := by
    decide +kernel
  have hsplit : (peerText rows).toList.splitOn '\n' = peerHeader :: rows.map (·.line true true) ++ [[]] := by
    rw [peerText, String.toList_ofList]
    refine List.splitOn_intercalate '\n' (fun line h => ?_) (by simp)
    simp only [List.cons_append, List.mem_cons, List.mem_append, List.mem_map, List.not_mem_nil, or_false] at h
    rcases h with rfl | ⟨row, hrow, rfl⟩ | rfl
    · exact hheader.1
    · exact hline row hrow
    · exact List.not_mem_nil
  have hlines : lines (peerText rows).toList = peerHeader :: rows.map (·.line true true) := by
    have hkeeps : ∀ line : List Char, line.getLast? = some '|' →
        (if line.getLast? = some '\r' then line.dropLast else line) = line := by
      intro line h
      rw [if_neg (by rw [h]; decide)]
    rw [lines, hsplit]
    simp only [List.dropLast_concat, List.getLast?_concat, Option.getD_some, if_true, List.append_nil, List.map_cons,
      List.map_map, hkeeps peerHeader hheader.2.1]
    exact congrArg _ (List.map_congr_left fun row _ => hkeeps _ row.line_ends.2)
  have hrows : (rows.map (·.line true true)).filter (fun line => (sampleOfLine cellParsers line).isSome) =
      rows.map (·.line true true) := by
    refine List.filter_eq_self.2 (fun line h => ?_)
    obtain ⟨row, hrow, rfl⟩ := List.mem_map.1 h
    exact hkept row hrow
  rw [IsPeerTable, hlines, List.filter_cons_of_neg (by rw [hheader.2.2]; simp), hrows, List.forall₂_map_left_iff,
    List.forall₂_same]
  exact fun row _ => ⟨true, true, trim_of_pipes row.line_ends.1 row.line_ends.2⟩

/-- The rows of the repository's test, with another latency in the first. -/
def testHost (latMs : List Char) (hpipe : '|' ∉ latMs) : PeerRow where
  ipv4 := " 10.144.144.1 ".toList
  hostname := " host ".toList
  cost := " p2p ".toList
  latMs := latMs
  lossRate := " 0.01 ".toList
  natType := " FullCone ".toList
  noPipe := by
    simp only [List.forall_mem_cons, List.not_mem_nil, false_implies, implies_true, and_true]
    exact ⟨by decide, by decide, by decide, hpipe, by decide, by decide⟩

def testGuest : PeerRow where
  ipv4 := " 10.144.144.2 ".toList
  hostname := " guest ".toList
  cost := " relay ".toList
  latMs := " 90 ".toList
  lossRate := " 0.05 ".toList
  natType := " Symmetric ".toList
  noPipe := by decide

/-- The table of these rows, of which the first is chosen. -/
theorem testHost_table {latMs : List Char} (hpipe : '|' ∉ latMs) {ms : UInt32} (hlatency : parseLatency latMs = some ms)
    (hms : ms ≤ 90) (hline : '\n' ∉ (testHost latMs hpipe).line true true)
    (hkept : (sampleOfLine cellParsers ((testHost latMs hpipe).line true true)).isSome = true) :
    IsPeerTable (peerText [testHost latMs hpipe, testGuest]) [testHost latMs hpipe, testGuest] ∧
    (∀ row ∈ [testHost latMs hpipe, testGuest], row.Typed) ∧
    EarliestLowest PeerRow.latency [testHost latMs hpipe, testGuest] (testHost latMs hpipe) := by
  have hcost : parseLatency " p2p ".toList = none := by decide +kernel
  have hipv4 : parseLatency " 10.144.144.1 ".toList = none ∧ parseLoss " 10.144.144.1 ".toList = none := by
    decide +kernel
  have hhostname : parseLatency " host ".toList = none ∧ parseLoss " host ".toList = none := by decide +kernel
  have hloss : (parseLoss " 0.01 ".toList).isSome = true := by decide +kernel
  have hguest : testGuest.latency = some 90 := by decide +kernel
  refine ⟨isPeerTable_peerText ?_ ?_, ?_, [], [testGuest], rfl, ?_⟩
  · exact List.forall_mem_cons.2 ⟨hline, List.forall_mem_singleton.2 (by decide +kernel)⟩
  · exact List.forall_mem_cons.2 ⟨hkept, List.forall_mem_singleton.2 (by decide +kernel)⟩
  · refine List.forall_mem_cons.2 ⟨⟨hipv4, hhostname, ?_, hloss⟩, List.forall_mem_singleton.2 ?_⟩
    · show (parseLatency latMs).isSome = true
      rw [hlatency]
      rfl
    · exact ⟨by decide +kernel, by decide +kernel, by decide +kernel, by decide +kernel⟩
  · have hhost : (testHost latMs hpipe).latency = some ms := by
      show (parseLatency " p2p ".toList).or (parseLatency latMs) = some ms
      rw [hcost, hlatency, Option.none_or]
    rw [hhost]
    refine ⟨by simp, fun y hy other hother => ?_⟩
    rw [List.mem_singleton.1 hy, hguest] at hother
    exact Option.some.inj hother ▸ hms

/-- What is read of its cells. -/
theorem testHost_cells (latMs : List Char) (hpipe : '|' ∉ latMs) : (testHost latMs hpipe).cost = " p2p ".toList ∧
    (testHost latMs hpipe).latMs = latMs ∧ (testHost latMs hpipe).lossRate = " 0.01 ".toList := ⟨rfl, rfl, rfl⟩

/-- With its unit the latency of the host is no loss, and the loss of the cell is reported. -/
theorem unit_keeps_loss :
    (parsePeerTable (peerText [testHost " 18ms ".toList (by decide), testGuest])).bind (·.lossRate) =
      parseLoss " 0.01 ".toList := by
  have hms : parseLatency " 18ms ".toList = some 18 := by decide +kernel
  have hunread : (parseLoss " p2p ".toList).or (parseLoss " 18ms ".toList) = none := by decide +kernel
  obtain ⟨htable, htyped, hchosen⟩ := testHost_table (by decide) hms (by decide) (by decide +kernel) (by decide +kernel)
  obtain ⟨hcost, hlatMs, hlossRate⟩ := testHost_cells " 18ms ".toList (by decide)
  have hreads : (testHost " 18ms ".toList (by decide)).ReadsLossCell := .inl (by rw [hcost, hlatMs, hunread])
  rw [(peer_loss_iff htable htyped hchosen).1.2 hreads, hlossRate]

/-- **The loss that the test's table reports is a hundredth of the latency**, and goes with it. -/
theorem loss_is_read_from_latency :
    (parsePeerTable (peerText [testHost " 18 ".toList (by decide), testGuest])).bind (·.lossRate) ≠
      (parsePeerTable (peerText [testHost " 20 ".toList (by decide), testGuest])).bind (·.lossRate) ∧
    ¬ ∀ (text : String) (rows : List PeerRow) (row : PeerRow), IsPeerTable text rows → (∀ row ∈ rows, row.Typed) →
      EarliestLowest PeerRow.latency rows row →
      (parsePeerTable text).bind (·.lossRate) = parseLoss row.lossRate := by
  have hms : parseLatency " 18 ".toList = some 18 := by decide +kernel
  have hms' : parseLatency " 20 ".toList = some 20 := by decide +kernel
  obtain ⟨htable, htyped, hchosen⟩ := testHost_table (by decide) hms (by decide) (by decide +kernel) (by decide +kernel)
  obtain ⟨htable', htyped', hchosen'⟩ :=
    testHost_table (by decide) hms' (by decide) (by decide +kernel) (by decide +kernel)
  obtain ⟨hcost, hlatMs, hlossRate⟩ := testHost_cells " 18 ".toList (by decide)
  obtain ⟨hcost', hlatMs', hlossRate'⟩ := testHost_cells " 20 ".toList (by decide)
  rw [parsePeerTable_loss htable htyped hchosen, parsePeerTable_loss htable' htyped' hchosen', hcost, hlatMs, hlossRate,
    hcost', hlatMs', hlossRate']
  refine ⟨by decide +kernel, fun h => ?_⟩
  have hloss := h _ _ _ htable htyped hchosen
  rw [parsePeerTable_loss htable htyped hchosen, hcost, hlatMs, hlossRate] at hloss
  exact absurd hloss (by decide +kernel)

end Terracotta
