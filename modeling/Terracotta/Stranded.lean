import Terracotta.Matching
/-!
# Calls behind the end of the reader

`ReadLoopAsync` completes what is pending only in its last `catch`, and nothing tells a later call that the reader is
gone.  `LeavesNobody` says where a step leaves a call waiting for a reader that has returned.
-/
namespace Terracotta

open Json (Value)

variable {ρ : Type}

namespace DuplexClient

variable {c t : DuplexClient ρ}

/-- A call that awaits its completion, or whose entry is pending, is complete, but for the ones `reached` has. -/
def Quiet (c : DuplexClient ρ) (reached : List Nat) : Prop :=
  ∀ (k : Nat) (call : IpcCall ρ), k ∉ reached → c.calls[k]? = some call →
    (call.phase = .waiting ∨ (call.id, k) ∈ c.pending) → call.completion ≠ .incomplete

/-- Once the reader has returned, nobody waits. -/
def Settled (c : DuplexClient ρ) : Prop := c.reader = .returned → c.Quiet []

/-- The condition under which a step leaves nobody behind. -/
def LeavesNobody (c : DuplexClient ρ) : DuplexLabel ρ → Prop
  | .send guid _ _ => c.reader = .returned → (c.pending.lookup (guidText guid)).isSome
  | .sent i => c.reader = .returned → ∀ call, c.calls[i]? = some call → call.phase = .sending →
      call.completion = .incomplete → call.token = true
  | .readerCanceled => c.reader = .reading → c.Quiet []
  | .walkEnds => ∀ error start visited, c.reader = .failing error start visited → c.walked start visited = true →
      c.Quiet visited
  | _ => True

/-- What the walk of the last `catch` has visited is complete. -/
def Visited (c : DuplexClient ρ) : Prop :=
  ∀ error start visited, c.reader = .failing error start visited → ∀ k ∈ visited, ∃ call, c.calls[k]? = some call ∧
    call.completion ≠ .incomplete

/-! ## What moves a call -/

/-- A call that does not begin to wait, and is no less complete than before, leaves the others as they were. -/
theorem Quiet.move {reached : List Nat} {i : Nat} {call call' : IpcCall ρ} (hq : c.Quiet reached)
    (hi : c.calls[i]? = some call) (hcalls : t.calls = c.calls.set i call') (hid : call'.id = call.id)
    (hwaits : call'.phase = .waiting → call.phase = .waiting)
    (hopen : call'.completion = .incomplete → call.completion = .incomplete) (hpending : t.pending ⊆ c.pending) :
    t.Quiet reached := by
  intro k new hk hnew hwaiting hincomplete
  rw [hcalls] at hnew
  by_cases hik : i = k
  · subst hik
    rw [List.getElem?_set_self', hi] at hnew
    obtain rfl : call' = new := Option.some.inj hnew
    exact hq i call hk hi (hwaiting.imp hwaits fun h => hid ▸ hpending h) (hopen hincomplete)
  · rw [List.getElem?_set_ne hik] at hnew
    exact hq k new hk hnew (hwaiting.imp_right fun h => hpending h) hincomplete

theorem Settled.move {i : Nat} {call call' : IpcCall ρ} (hs : c.Settled) (hi : c.calls[i]? = some call)
    (hcalls : t.calls = c.calls.set i call') (hid : call'.id = call.id)
    (hwaits : call'.phase = .waiting → call.phase = .waiting)
    (hopen : call'.completion = .incomplete → call.completion = .incomplete) (hpending : t.pending ⊆ c.pending)
    (hreader : t.reader = .returned → c.reader = .returned) : t.Settled :=
  fun hreturned => (hs (hreader hreturned)).move hi hcalls hid hwaits hopen hpending

theorem Settled.idle (hs : c.Settled) (hcalls : t.calls = c.calls) (hpending : t.pending ⊆ c.pending)
    (hreader : t.reader = .returned → c.reader = .returned) : t.Settled := by
  intro hreturned k call hk hcall hwaiting
  rw [hcalls] at hcall
  exact hs (hreader hreturned) k call hk hcall (hwaiting.imp_right fun h => hpending h)

/-! ## What the walk has visited -/

/-- What is complete stays complete. -/
theorem Moves.complete (h : c.Moves t) {k : Nat} {old : IpcCall ρ} (hk : c.calls[k]? = some old)
    (hdone : old.completion ≠ .incomplete) : ∃ call, t.calls[k]? = some call ∧ call.completion ≠ .incomplete := by
  cases h with
  | adds call guid hid hcompletion houtcome hcalls =>
    have hlt : k < c.calls.length := (List.getElem?_eq_some_iff.1 hk).1
    exact ⟨old, by rw [hcalls, List.getElem?_append_left hlt]; exact hk, hdone⟩
  | moves i call call' hi hcalls hid hread hcompletion =>
    by_cases hik : i = k
    · subst hik
      obtain rfl : call = old := Option.some.inj (hi.symm.trans hk)
      exact ⟨call', by rw [hcalls, List.getElem?_set_self', hi]; rfl, fun h => hdone (hcompletion.incomplete h)⟩
    · exact ⟨old, by rw [hcalls, List.getElem?_set_ne hik]; exact hk, hdone⟩
  | idles hcalls => exact ⟨old, by rw [hcalls]; exact hk, hdone⟩
  | takes envelope k' hk' hcalls => exact ⟨old, by rw [hcalls]; exact hk, hdone⟩
  | enters envelope hcalls => exact ⟨old, by rw [hcalls]; exact hk, hdone⟩
  | resolves n k' call hresolving hk' hcalls =>
    by_cases hik : k' = k
    · subst hik
      obtain rfl : call = old := Option.some.inj (hk'.symm.trans hk)
      refine ⟨{ call with completion := call.completion.trySet (.result n) }, ?_, ?_⟩
      · rw [hcalls, List.getElem?_set_self', hk']
        rfl
      · rw [Completion.trySet_of_ne _ hdone]
        exact hdone
    · exact ⟨old, by rw [hcalls, List.getElem?_set_ne hik]; exact hk, hdone⟩

/-- The walk begins with nothing visited, and visits one entry at a time. -/
theorem step_failing {l : DuplexLabel ρ} (h : c.step l = some t) {error : Exn} {start : Nat} {visited : List Nat}
    (hreader : t.reader = .failing error start visited) :
    c.reader = .failing error start visited ∨ visited = [] ∨
      ∃ k rest, l = .visit k ∧ visited = k :: rest ∧ c.reader = .failing error start rest := by
  cases l with
  | send guid expectedResponseType read =>
    simp only [step] at h
    split at h <;> cases h <;> exact .inl hreader
  | sent i | sendFails i error | cancel i | abort i | finish i =>
    simp only [step, Option.bind_eq_bind, Option.bind_eq_some_iff] at h
    obtain ⟨call, -, h⟩ := h
    split at h <;> cases h <;> exact .inl hreader
  | resume i jsonMessage =>
    simp only [step, Option.bind_eq_bind, Option.bind_eq_some_iff] at h
    obtain ⟨call, -, h⟩ := h
    split at h
    · obtain ⟨envelope, -, h⟩ := Option.bind_eq_some_iff.1 h
      cases h
      exact .inl hreader
    all_goals cases h <;> exact .inl hreader
  | receive envelope =>
    simp only [step, Option.ite_none_right_eq_some, Option.some.injEq] at h
    obtain ⟨hreading, rfl⟩ := h
    unfold receive at hreader
    simp only at hreader
    split at hreader
    · cases hreader
    · exact .inl hreader
  | resolve =>
    simp only [step] at h
    split at h
    · obtain ⟨call, -, h⟩ := Option.bind_eq_some_iff.1 h
      cases h
      cases hreader
    · cases h
  | readerCanceled =>
    simp only [step, Option.ite_none_right_eq_some, Option.some.injEq] at h
    obtain ⟨-, rfl⟩ := h
    cases hreader
  | readerFails error =>
    simp only [step, Option.ite_none_right_eq_some, Option.some.injEq] at h
    obtain ⟨-, rfl⟩ := h
    cases hreader
    exact .inr (.inl rfl)
  | visit k =>
    simp only [step] at h
    split at h
    · rename_i error' start' rest hold
      obtain ⟨u, -, h⟩ := Option.bind_eq_some_iff.1 h
      cases h
      cases hreader
      exact .inr (.inr ⟨k, rest, rfl, rfl, hold⟩)
    · cases h
  | walkEnds =>
    simp only [step] at h
    split at h
    · obtain ⟨-, h⟩ := Option.ite_none_right_eq_some.1 h
      cases h
      cases hreader
    · cases h
  | dispose =>
    simp only [step] at h
    split at h <;> cases h <;> exact .inl hreader
  | joined =>
    simp only [step, Option.ite_none_right_eq_some, Option.some.injEq] at h
    obtain ⟨-, rfl⟩ := h
    exact .inl hreader
  | disposeVisit k =>
    simp only [step] at h
    split at h
    · obtain ⟨u, hu, h⟩ := Option.bind_eq_some_iff.1 h
      cases h
      obtain ⟨call, -, -, rfl⟩ := complete_some hu
      exact .inl hreader
    · cases h
  | clear =>
    simp only [step] at h
    split at h
    · obtain ⟨-, h⟩ := Option.ite_none_right_eq_some.1 h
      cases h
      exact .inl hreader
    · cases h

theorem visit_completes {k : Nat} (h : c.step (.visit k) = some t) :
    ∃ call, t.calls[k]? = some call ∧ call.completion ≠ .incomplete := by
  simp only [step] at h
  split at h
  · rename_i error start visited hreader
    obtain ⟨u, hu, h⟩ := Option.bind_eq_some_iff.1 h
    cases h
    obtain ⟨call, hk, -, rfl⟩ := complete_some hu
    refine ⟨{ call with completion := call.completion.trySet (.failed error) }, ?_, Completion.trySet_ne (by simp)⟩
    show (c.calls.set k _)[k]? = _
    rw [List.getElem?_set_self', hk]
    rfl
  · cases h

theorem visited_step {l : DuplexLabel ρ} (hv : c.Visited) (h : c.step l = some t) : t.Visited := by
  intro error start visited hreader k hk
  have hkeep : ∀ visited, c.reader = .failing error start visited → k ∈ visited →
      ∃ call, t.calls[k]? = some call ∧ call.completion ≠ .incomplete := by
    intro visited hreader hk
    obtain ⟨old, hold, hdone⟩ := hv error start visited hreader k hk
    exact (step_moves h).complete hold hdone
  rcases step_failing h hreader with hold | rfl | ⟨k', rest, rfl, rfl, hold⟩
  · exact hkeep visited hold hk
  · cases hk
  · rcases List.mem_cons.1 hk with rfl | hk
    · exact visit_completes h
    · exact hkeep rest hold hk

/-! ## One step -/

theorem settled_send_iff (hm : c.Matched) (hs : c.Settled) (guid : BitVec 128) (expectedResponseType : String)
    (read : Value → Option ρ) : c.LeavesNobody (.send guid expectedResponseType read) ↔
      ∀ t, c.step (.send guid expectedResponseType read) = some t → t.Settled := by
  simp only [LeavesNobody, step]
  cases hlookup : c.pending.lookup (guidText guid) with
  | some j =>
    refine iff_of_true (fun _ => rfl) fun t ht => ?_
    cases ht
    intro hreturned k call hk hcall hwaiting
    simp only at hcall
    rw [List.getElem?_append] at hcall
    split at hcall
    · exact hs hreturned k call hk hcall hwaiting
    · rename_i hlen
      have hnew : call.phase ≠ .waiting := by
        rw [List.mem_singleton.1 (List.mem_of_getElem? hcall)]
        simp
      -- an entry belongs to a call that was there before
      obtain ⟨old, hold, -⟩ := hm.entry _ k (hwaiting.resolve_left hnew)
      exact absurd (List.getElem?_eq_some_iff.1 hold).1 hlen
  | none =>
    refine ⟨fun h t ht hreturned => ?_, fun h hreturned => ?_⟩
    · cases ht
      cases h hreturned
    · have hset := h _ rfl hreturned c.calls.length _ (List.not_mem_nil) (List.getElem?_concat_length)
        (.inr (List.mem_append_right _ (List.mem_singleton.2 rfl)))
      exact absurd rfl hset

theorem settled_sent_iff (hs : c.Settled) (i : Nat) :
    c.LeavesNobody (.sent i) ↔ ∀ t, c.step (.sent i) = some t → t.Settled := by
  refine ⟨fun h t ht hreturned => ?_, fun h hreturned call hi hphase hopen => ?_⟩
  · simp only [step, Option.bind_eq_bind, Option.bind_eq_some_iff] at ht
    obtain ⟨call, hi, ht⟩ := ht
    split at ht
    · rename_i hphase
      cases ht
      intro k new hk hnew hwaiting hincomplete
      simp only [setCall] at hnew
      by_cases hik : i = k
      · subst hik
        rw [List.getElem?_set_self', hi] at hnew
        cases hnew
        by_cases hopen : call.completion = .incomplete
        · have htoken := h hreturned call hi hphase hopen
          simp [htoken, hopen, Completion.trySet] at hincomplete
        · simp only [Completion.trySet_of_ne _ hopen, ite_self] at hincomplete
          exact hopen hincomplete
      · rw [List.getElem?_set_ne hik] at hnew
        exact hs hreturned k new hk hnew hwaiting hincomplete
    · cases ht
  · cases htoken : call.token with
    | true => rfl
    | false =>
      have hstep : c.step (.sent i) = some (c.setCall i { call with phase := .waiting }) := by
        simp [step, hi, hphase, htoken]
      have hget : (c.setCall i { call with phase := .waiting }).calls[i]? = some { call with phase := .waiting } := by
        simp only [setCall]
        rw [List.getElem?_set_self', hi]
        rfl
      exact absurd hopen (h _ hstep hreturned i { call with phase := .waiting } List.not_mem_nil hget (.inl rfl))

theorem settled_walkEnds_iff (hv : c.Visited) :
    c.LeavesNobody .walkEnds ↔ ∀ t, c.step .walkEnds = some t → t.Settled := by
  refine ⟨fun h t ht => ?_, fun h error start visited hreader hwalked => ?_⟩
  · simp only [step] at ht
    split at ht
    · rename_i error start visited hreader
      obtain ⟨hwalked, ht⟩ := Option.ite_none_right_eq_some.1 ht
      cases ht
      intro hreturned k call hk hcall hwaiting
      by_cases hvisited : k ∈ visited
      · obtain ⟨call', hcall', hdone⟩ := hv error start visited hreader k hvisited
        obtain rfl : call = call' := Option.some.inj (hcall.symm.trans hcall')
        exact hdone
      · exact h error start visited hreader hwalked k call hvisited hcall hwaiting
    · cases ht
  · have hstep : c.step .walkEnds = some { c with reader := .returned } := by simp [step, hreader, hwalked]
    exact fun k call hk hcall hwaiting => h _ hstep rfl k call List.not_mem_nil hcall hwaiting

theorem settled_of_reader (h : t.reader ≠ .returned) : t.Settled := fun hreturned => absurd hreturned h

/-- **One step leaves nobody behind exactly under the condition.** -/
theorem step_settled_iff (hm : c.Matched) (hv : c.Visited) (hs : c.Settled) (l : DuplexLabel ρ) :
    c.LeavesNobody l ↔ ∀ t, c.step l = some t → t.Settled := by
  cases l with
  | send guid expectedResponseType read => exact settled_send_iff hm hs guid expectedResponseType read
  | sent i => exact settled_sent_iff hs i
  | walkEnds => exact settled_walkEnds_iff hv
  | readerCanceled =>
    simp only [LeavesNobody, step, Option.ite_none_right_eq_some, Option.some.injEq, and_imp]
    exact ⟨fun h t hreading ht => ht ▸ fun _ => h hreading, fun h hreading => h { c with reader := .returned } hreading rfl rfl⟩
  | sendFails i error | abort i =>
    refine iff_of_true trivial fun t ht => ?_
    simp only [step, Option.bind_eq_bind, Option.bind_eq_some_iff] at ht
    obtain ⟨call, hi, ht⟩ := ht
    split at ht <;> cases ht <;>
      exact hs.move hi rfl rfl (fun h => by cases h) (fun h => h) (List.Subset.refl _) (fun h => h)
  | cancel i =>
    refine iff_of_true trivial fun t ht => ?_
    simp only [step, Option.bind_eq_bind, Option.bind_eq_some_iff] at ht
    obtain ⟨call, hi, ht⟩ := ht
    split at ht <;> cases ht
    · exact hs.move hi rfl rfl (fun h => h) (Completion.trySet_closes _ (by simp)).incomplete (List.Subset.refl _)
        (fun h => h)
    · exact hs.move hi rfl rfl (fun h => h) (fun h => h) (List.Subset.refl _) (fun h => h)
  | resume i jsonMessage =>
    refine iff_of_true trivial fun t ht => ?_
    simp only [step, Option.bind_eq_bind, Option.bind_eq_some_iff] at ht
    obtain ⟨call, hi, ht⟩ := ht
    split at ht
    · obtain ⟨envelope, -, ht⟩ := Option.bind_eq_some_iff.1 ht
      cases ht
      exact hs.move hi rfl rfl (fun h => by cases h) (fun h => h) (List.Subset.refl _) (fun h => h)
    all_goals
      cases ht <;> exact hs.move hi rfl rfl (fun h => by cases h) (fun h => h) (List.Subset.refl _) (fun h => h)
  | finish i =>
    refine iff_of_true trivial fun t ht => ?_
    simp only [step, Option.bind_eq_bind, Option.bind_eq_some_iff] at ht
    obtain ⟨call, hi, ht⟩ := ht
    split at ht <;> cases ht
    exact hs.move hi rfl rfl (fun h => by cases h) (fun h => h) (List.filter_subset_self _) (fun h => h)
  | receive envelope =>
    refine iff_of_true trivial fun t ht => settled_of_reader ?_
    obtain ⟨hreading, ht⟩ := Option.ite_none_right_eq_some.1 ht
    cases ht
    simp only [receive]
    split
    · simp
    · simp [hreading]
  | resolve =>
    refine iff_of_true trivial fun t ht => settled_of_reader ?_
    simp only [step] at ht
    split at ht
    · obtain ⟨call, -, ht⟩ := Option.bind_eq_some_iff.1 ht
      cases ht
      simp
    · cases ht
  | readerFails error =>
    refine iff_of_true trivial fun t ht => settled_of_reader ?_
    obtain ⟨-, ht⟩ := Option.ite_none_right_eq_some.1 ht
    cases ht
    simp
  | visit k =>
    refine iff_of_true trivial fun t ht => settled_of_reader ?_
    simp only [step] at ht
    split at ht
    · obtain ⟨u, -, ht⟩ := Option.bind_eq_some_iff.1 ht
      cases ht
      simp
    · cases ht
  | dispose =>
    refine iff_of_true trivial fun t ht => ?_
    simp only [step] at ht
    split at ht <;> cases ht <;> exact hs.idle rfl (List.Subset.refl _) (fun h => h)
  | joined =>
    refine iff_of_true trivial fun t ht => ?_
    obtain ⟨-, ht⟩ := Option.ite_none_right_eq_some.1 ht
    cases ht
    exact hs.idle rfl (List.Subset.refl _) (fun h => h)
  | disposeVisit k =>
    refine iff_of_true trivial fun t ht => ?_
    simp only [step] at ht
    split at ht
    · obtain ⟨u, hu, ht⟩ := Option.bind_eq_some_iff.1 ht
      cases ht
      obtain ⟨call, hk, -, rfl⟩ := complete_some hu
      exact hs.move hk rfl rfl (fun h => h) (Completion.trySet_closes _ (by simp)).incomplete (List.Subset.refl _)
        (fun h => h)
    · cases ht
  | clear =>
    refine iff_of_true trivial fun t ht => ?_
    simp only [step] at ht
    split at ht
    · obtain ⟨-, ht⟩ := Option.ite_none_right_eq_some.1 ht
      cases ht
      exact hs.idle rfl (List.nil_subset _) (fun h => h)
    · cases ht

/-! ## Runs -/

/-- **The reader leaves nobody waiting in any state of a run exactly when every step meets the condition.** -/
theorem reader_leaves_nobody_waiting_iff (labels : List (DuplexLabel ρ)) :
    Run.Always step Settled init labels ↔ Run.Along step LeavesNobody init labels := by
  refine Run.always_iff_along_of (fun c => c.Matched ∧ c.Visited) _ (fun c l t hw ht => ?_) (fun c l hw hs => ?_) labels
    ⟨matched_init, fun error start visited hreader => by cases hreader⟩ fun hreturned => by cases hreturned
  · exact ⟨matched_step hw.1 (step_moves ht), visited_step hw.2 ht⟩
  · exact step_settled_iff hw.1 hw.2 hs l

/-- A frame of length zero ends the reader, and a call behind it writes to a stream that is still open. -/
def callBehindReader : List (DuplexLabel Value) :=
  [.readerFails (.helperProtocol none "IPC peer sent an invalid frame size."), .walkEnds,
    .send 1 "room.status.result" some, .sent 0]

/-- The reader's token fires while a call waits. -/
def readerCanceledUnderCall : List (DuplexLabel Value) :=
  [.send 1 "room.status.result" some, .sent 0, .readerCanceled]

/-- A run that is not settled throughout, and ends with its one call waiting for a reader that has returned. -/
def Strands (labels : List (DuplexLabel Value)) : Prop :=
  ¬ Run.Always step Settled init labels ∧ ∃ c call, Run.run step init labels = some c ∧ c.reader = .returned ∧
    c.calls = [call] ∧ call.phase = .waiting ∧ call.completion = .incomplete ∧ c.pending = [(call.id, 0)]

theorem strands_of_end {labels : List (DuplexLabel Value)} {c : DuplexClient Value} {call : IpcCall Value}
    (hrun : Run.run step init labels = some c) (hreader : c.reader = .returned) (hcalls : c.calls = [call])
    (hphase : call.phase = .waiting) (hopen : call.completion = .incomplete) (hpending : c.pending = [(call.id, 0)]) :
    Strands labels := by
  refine ⟨fun h => ?_, c, call, hrun, hreader, hcalls, hphase, hopen, hpending⟩
  exact Run.always_last h hrun hreader 0 call List.not_mem_nil (by rw [hcalls]; rfl) (.inl hphase) hopen

/-- **A call waits for a reader that has returned**: one that came behind it, and one that was there when the reader was
cancelled. -/
theorem call_waits_for_returned_reader : Strands callBehindReader ∧ Strands readerCanceledUnderCall := by
  constructor
  · exact strands_of_end rfl rfl rfl rfl rfl rfl
  · exact strands_of_end rfl rfl rfl rfl rfl rfl

end DuplexClient

end Terracotta
