import Terracotta.RememberedChoice
/-!
# The session `Select` picks

`OrderByDescending(StartedAt).ThenBy(SessionId)` orders sessions of different ids in one way only, so what `Select` makes of
them is the same in whatever order the host lists them.
-/

/-- Words of a code in which no word starts another can be read back. -/
theorem flatMap_injective {α β : Type} {code : α → List β} (hnonempty : ∀ a, code a ≠ [])
    (hcode : ∀ a b s t, code a ++ s = code b ++ t → a = b) : Function.Injective (List.flatMap code)
  | [], [], _ => rfl
  | [], b :: l', h => by
    rw [List.flatMap_nil, List.flatMap_cons] at h
    exact absurd (List.append_eq_nil_iff.1 h.symm).1 (hnonempty b)
  | a :: l, [], h => by
    rw [List.flatMap_nil, List.flatMap_cons] at h
    exact absurd (List.append_eq_nil_iff.1 h).1 (hnonempty a)
  | a :: l, b :: l', h => by
    rw [List.flatMap_cons, List.flatMap_cons] at h
    obtain rfl := hcode a b _ _ h
    rw [flatMap_injective hnonempty hcode (List.append_cancel_left h)]

/-- **What a sort by an order makes of a list depends on its elements only**, where no two of them are equivalent. -/
theorem insertionSort_eq_of_perm {α : Type} (r : α → α → Prop) [DecidableRel r] [Std.Total r] [IsTrans α r] {l l' : List α}
    (hanti : ∀ a ∈ l, ∀ b ∈ l, r a b → r b a → a = b) (hperm : l.Perm l') : l.insertionSort r = l'.insertionSort r := by
  have hsorted : (l.insertionSort r).Perm (l'.insertionSort r) :=
    (List.perm_insertionSort r l).trans (hperm.trans (List.perm_insertionSort r l').symm)
  refine List.Perm.eq_of_pairwise (fun a b ha hb => ?_) (List.pairwise_insertionSort r l) (List.pairwise_insertionSort r l')
    hsorted
  have hb : b ∈ l.insertionSort r := hsorted.mem_iff.2 hb
  exact hanti a ((List.mem_insertionSort r).1 ha) b ((List.mem_insertionSort r).1 hb)

namespace Terracotta

/-! ## The order of the sessions -/

/-- The code units of a character are not those of another, nor do they start with them. -/
theorem utf16_code {a b : Char} {s t : List Nat}
    (h : (if a.toNat < 0x10000 then [a.toNat]
      else [0xD800 + (a.toNat - 0x10000) / 0x400, 0xDC00 + (a.toNat - 0x10000) % 0x400]) ++ s =
      (if b.toNat < 0x10000 then [b.toNat]
      else [0xD800 + (b.toNat - 0x10000) / 0x400, 0xDC00 + (b.toNat - 0x10000) % 0x400]) ++ t) : a = b := by
  have hvalid : ∀ c : Char, c.toNat < 0xD800 ∨ (0xDFFF < c.toNat ∧ c.toNat < 0x110000) := fun c => c.valid
  have ha := hvalid a
  have hb := hvalid b
  apply Char.toNat_inj.1
  by_cases hlow : a.toNat < 0x10000
  · by_cases hlow' : b.toNat < 0x10000
    · rw [if_pos hlow, if_pos hlow'] at h
      exact (List.cons.inj h).1
    · -- the first unit of `b` is a surrogate, and no character is one
      rw [if_pos hlow, if_neg hlow'] at h
      have hunit := (List.cons.inj h).1
      omega
  · by_cases hlow' : b.toNat < 0x10000
    · rw [if_neg hlow, if_pos hlow'] at h
      have hunit := (List.cons.inj h).1
      omega
    · rw [if_neg hlow, if_neg hlow'] at h
      obtain ⟨hhigh, hrest⟩ := List.cons.inj h
      have hlower := (List.cons.inj hrest).1
      omega

theorem utf16_injective : Function.Injective utf16 := by
  intro a b h
  refine String.toList_injective (flatMap_injective (fun c => ?_) (fun c d s t => utf16_code) h)
  split <;> exact List.cons_ne_nil _ _

/-- Two sessions that start at one time are in order by their ids. -/
theorem startedBefore_antisymm {a b : PluginGameSessionSnapshot} (hab : startedBefore a b) (hba : startedBefore b a) :
    a.startedAt = b.startedAt ∧ a.sessionId = b.sessionId := by
  rcases hab with hab | ⟨hstart, hle⟩
  · rcases hba with hba | ⟨hstart, -⟩ <;> omega
  · rcases hba with hba | ⟨-, hle'⟩
    · omega
    · exact ⟨hstart, utf16_injective (le_antisymm hle hle')⟩

/-! ## Another order of the same sessions -/

/-- The running sessions, in the order in which `Select` shows them. -/
def sortedRunning (sessions : List PluginGameSessionSnapshot) : List PluginGameSessionSnapshot :=
  (runningSessions sessions).insertionSort startedBefore

theorem mem_runningSessions {sessions : List PluginGameSessionSnapshot} {x : PluginGameSessionSnapshot} :
    x ∈ runningSessions sessions ↔ x ∈ sessions ∧ x.state = .running := by
  rw [runningSessions, List.mem_filter, decide_eq_true_iff]

theorem mem_sortedRunning {sessions : List PluginGameSessionSnapshot} {x : PluginGameSessionSnapshot} :
    x ∈ sortedRunning sessions ↔ x ∈ runningSessions sessions :=
  List.mem_insertionSort startedBefore

theorem sortedRunning_perm {sessions sessions' : List PluginGameSessionSnapshot}
    (hdistinct : (sessions.map (·.sessionId)).Nodup) (hperm : sessions.Perm sessions') :
    sortedRunning sessions = sortedRunning sessions' := by
  refine insertionSort_eq_of_perm startedBefore (fun a ha b hb hab hba => ?_) (hperm.filter _)
  exact List.inj_on_of_nodup_map hdistinct (mem_runningSessions.1 ha).1 (mem_runningSessions.1 hb).1
    (startedBefore_antisymm hab hba).2

/-- `Select` reads the list of sessions through the running ones in their order. -/
theorem select_congr {sessions sessions' : List PluginGameSessionSnapshot}
    (h : sortedRunning sessions = sortedRunning sessions') (explicitSessionId currentInstanceId : Option String)
    (selectMostRecent : Bool) :
    GameSessionCoordinator.select sessions explicitSessionId currentInstanceId selectMostRecent =
      GameSessionCoordinator.select sessions' explicitSessionId currentInstanceId selectMostRecent := by
  unfold sortedRunning runningSessions at h
  unfold GameSessionCoordinator.select
  rw [h]

/-! ## The rules -/

/-- What the rules say of the session they select. -/
def PickedBy (sessions : List PluginGameSessionSnapshot) (explicitSessionId currentInstanceId : Option String)
    (selectMostRecent : Bool) (x : PluginGameSessionSnapshot) : Prop :=
  if isNullOrWhiteSpace explicitSessionId = false then explicitSessionId = some x.sessionId
  else runningSessions sessions = [x] ∨
    (∃ instanceId, currentInstanceId = some instanceId ∧ isNullOrWhiteSpace currentInstanceId = false ∧
      runningOf sessions instanceId = [x]) ∨
    (selectMostRecent = true ∧ ∀ y ∈ runningSessions sessions, startedBefore x y)

theorem runningOf_eq_singleton {sessions : List PluginGameSessionSnapshot} {instanceId : String}
    {x : PluginGameSessionSnapshot} :
    (sortedRunning sessions).filter (fun session => session.instanceId = some instanceId) = [x] ↔
      runningOf sessions instanceId = [x] :=
  filter_insertionSort_singleton startedBefore _ _ x

/-- **What `Select` answers**: the running sessions in their order, and of these at most one, by one of the rules. -/
theorem select_spec (sessions : List PluginGameSessionSnapshot) (explicitSessionId currentInstanceId : Option String)
    (selectMostRecent : Bool) :
    ∃ selected reason, GameSessionCoordinator.select sessions explicitSessionId currentInstanceId selectMostRecent =
      ⟨selected, sortedRunning sessions, reason⟩ ∧
      ∀ x, selected = some x → x ∈ sortedRunning sessions ∧
        PickedBy sessions explicitSessionId currentInstanceId selectMostRecent x := by
  have hmem : ∀ y, y ∈ sortedRunning sessions ↔ y ∈ runningSessions sessions := fun y => mem_sortedRunning
  have hmatches := @runningOf_eq_singleton sessions
  have hone : ∀ y, sortedRunning sessions = [y] → runningSessions sessions = [y] := by
    intro y h
    have hperm := List.perm_insertionSort startedBefore (runningSessions sessions)
    rw [show (runningSessions sessions).insertionSort startedBefore = [y] from h] at hperm
    exact (List.singleton_perm.1 hperm).symm
  have hsorted : (sortedRunning sessions).Pairwise startedBefore := List.pairwise_insertionSort startedBefore _
  unfold GameSessionCoordinator.select PickedBy
  rw [show (sessions.filter (·.state = .running)).insertionSort startedBefore = sortedRunning sessions from rfl]
  generalize sortedRunning sessions = running at hmem hmatches hone hsorted
  by_cases hexplicit : isNullOrWhiteSpace explicitSessionId = false
  · simp only [hexplicit, Bool.not_false, if_true]
    cases hfind : running.find? (fun session => some session.sessionId = explicitSessionId) with
    | none => exact ⟨none, _, rfl, by simp⟩
    | some selected =>
      refine ⟨some selected, _, rfl, ?_⟩
      rintro x ⟨⟩
      have hid : some selected.sessionId = explicitSessionId := by simpa using List.find?_some hfind
      exact ⟨List.mem_of_find?_eq_some hfind, hid.symm⟩
  · rw [Bool.not_eq_false] at hexplicit
    simp only [hexplicit, Bool.not_true, Bool.false_eq_true, if_false]
    have hfound : ∀ y, (if isNullOrWhiteSpace currentInstanceId then []
        else running.filter (fun session => session.instanceId = currentInstanceId)) = [y] →
          y ∈ running ∧ ∃ instanceId, currentInstanceId = some instanceId ∧ isNullOrWhiteSpace currentInstanceId = false ∧
            runningOf sessions instanceId = [y] := by
      intro y h
      cases currentInstanceId with
      | none => cases h
      | some instanceId =>
        split at h
        · cases h
        · rename_i hgiven
          have hy : y ∈ running.filter (fun session => session.instanceId = some instanceId) := by rw [h]; simp
          exact ⟨List.mem_of_mem_filter hy, instanceId, rfl, Bool.not_eq_true _ ▸ hgiven, hmatches.1 h⟩
    generalize (if isNullOrWhiteSpace currentInstanceId then []
        else running.filter (fun session => session.instanceId = currentInstanceId)) = found at hfound
    match running, found with
    | [only], _ =>
      refine ⟨some only, _, rfl, ?_⟩
      rintro x ⟨⟩
      exact ⟨List.mem_singleton_self only, .inl (hone only rfl)⟩
    | [], [only] => exact absurd (hfound only rfl).1 List.not_mem_nil
    | [], [] | [], _ :: _ :: _ => exact ⟨none, _, rfl, by simp⟩
    | first :: second :: rest, [only] =>
      refine ⟨some only, _, rfl, ?_⟩
      rintro x ⟨⟩
      exact ⟨(hfound only rfl).1, .inr (.inl (hfound only rfl).2)⟩
    | first :: second :: rest, [] | first :: second :: rest, _ :: _ :: _ =>
      cases selectMostRecent with
      | false => exact ⟨none, _, rfl, by simp⟩
      | true =>
        refine ⟨some first, _, rfl, ?_⟩
        rintro x ⟨⟩
        refine ⟨List.mem_cons_self, .inr (.inr ⟨rfl, fun y hy => ?_⟩)⟩
        rcases List.mem_cons.1 ((hmem y).2 hy) with rfl | hy
        · exact .inr ⟨rfl, le_refl _⟩
        · exact (List.pairwise_cons.1 hsorted).1 y hy

/-- **The selection is one of the set of sessions**: another order of them changes nothing, and the session that is selected
runs, is among the candidates and is the one the rules name. -/
theorem select_of_perm {sessions sessions' : List PluginGameSessionSnapshot}
    (hdistinct : (sessions.map (·.sessionId)).Nodup) (hperm : sessions.Perm sessions')
    (explicitSessionId currentInstanceId : Option String) (selectMostRecent : Bool) :
    GameSessionCoordinator.select sessions explicitSessionId currentInstanceId selectMostRecent =
      GameSessionCoordinator.select sessions' explicitSessionId currentInstanceId selectMostRecent ∧
    ∀ x, (GameSessionCoordinator.select sessions explicitSessionId currentInstanceId selectMostRecent).selected = some x →
      x.state = .running ∧
      x ∈ (GameSessionCoordinator.select sessions explicitSessionId currentInstanceId selectMostRecent).candidates ∧
      PickedBy sessions explicitSessionId currentInstanceId selectMostRecent x := by
  refine ⟨select_congr (sortedRunning_perm hdistinct hperm) _ _ _, fun x hx => ?_⟩
  obtain ⟨selected, reason, hselect, hpicked⟩ :=
    select_spec sessions explicitSessionId currentInstanceId selectMostRecent
  rw [hselect] at hx ⊢
  obtain ⟨hmem, hrule⟩ := hpicked x hx
  exact ⟨(mem_runningSessions.1 (mem_sortedRunning.1 hmem)).2, hmem, hrule⟩

/-- Of two games that started at one time, the one with the lesser id is taken, whichever is listed first. -/
theorem select_of_tie :
    GameSessionCoordinator.select
        [⟨"b", some "one", .running, 5, none⟩, ⟨"c", some "one", .exited, 9, none⟩, ⟨"a", some "two", .running, 5, none⟩]
        none (some "three") true =
      GameSessionCoordinator.select
        [⟨"a", some "two", .running, 5, none⟩, ⟨"b", some "one", .running, 5, none⟩, ⟨"c", some "one", .exited, 9, none⟩]
        none (some "three") true ∧
    (GameSessionCoordinator.select
        [⟨"b", some "one", .running, 5, none⟩, ⟨"c", some "one", .exited, 9, none⟩, ⟨"a", some "two", .running, 5, none⟩]
        none (some "three") true).selected = some ⟨"a", some "two", .running, 5, none⟩ ∧
    PickedBy
      [⟨"b", some "one", .running, 5, none⟩, ⟨"c", some "one", .exited, 9, none⟩, ⟨"a", some "two", .running, 5, none⟩]
      none (some "three") true ⟨"a", some "two", .running, 5, none⟩ := by
  have hperm : List.Perm
      [⟨"b", some "one", .running, 5, none⟩, ⟨"c", some "one", .exited, 9, none⟩, ⟨"a", some "two", .running, 5, none⟩]
      [⟨"a", some "two", .running, 5, none⟩, ⟨"b", some "one", .running, 5, none⟩,
        (⟨"c", some "one", .exited, 9, none⟩ : PluginGameSessionSnapshot)] := by decide
  obtain ⟨hsame, hpicked⟩ := select_of_perm (by decide) hperm none (some "three") true
  have hselected : (GameSessionCoordinator.select
      [⟨"b", some "one", .running, 5, none⟩, ⟨"c", some "one", .exited, 9, none⟩, ⟨"a", some "two", .running, 5, none⟩]
      none (some "three") true).selected = some ⟨"a", some "two", .running, 5, none⟩ := by decide
  exact ⟨hsame, hselected, (hpicked _ hselected).2.2⟩

end Terracotta
