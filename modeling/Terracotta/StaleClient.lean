import Terracotta.Lifecycle
/-!
# The stored client and its Helper

A client is stored only while its launch is the last one, and the handler of that launch clears it unless the flag made
the task skip it.  So a client outlives its Helper only where `StopCoreAsync` leaves behind the flag it set at its start,
or where the handler itself throws.
-/
namespace Terracotta

/-- The task of the launch has read no flag yet, or waits for the gate. -/
def TaskPhase.early : TaskPhase → Bool
  | .running | .exited | .waiting => true
  | _ => false

/-- The process has ended, and its handler has finished or was skipped. -/
def TaskPhase.over : TaskPhase → Bool
  | .finished | .skipped => true
  | _ => false

theorem set_some {α : Type} {l : List α} {n k : Nat} {x y : α} (h : (l.set n x)[k]? = some y) :
    k = n ∧ y = x ∨ k ≠ n ∧ l[k]? = some y := by
  by_cases hk : n = k
  · subst hk
    obtain ⟨hlt, hy⟩ := List.getElem?_eq_some_iff.1 h
    rw [List.getElem_set_self] at hy
    exact .inl ⟨rfl, hy.symm⟩
  · rw [List.getElem?_set_ne hk] at h
    exact .inr ⟨Ne.symm hk, h⟩

/-- A launch keeps its generation, and all but one their phase. -/
theorem set_kept {launches : List HelperLaunch} {n k : Nat} {launch old : HelperLaunch} (phase : TaskPhase)
    (hn : launches[n]? = some launch) (hk : launches[k]? = some old) :
    ∃ new, (launches.set n { launch with phase })[k]? = some new ∧ new.generation = old.generation ∧
      (k = n ∧ new.phase = phase ∨ k ≠ n ∧ new.phase = old.phase) := by
  by_cases hkn : n = k
  · subst hkn
    obtain rfl : launch = old := Option.some.inj (hn.symm.trans hk)
    exact ⟨{ launch with phase }, by rw [List.getElem?_set_self', hn]; rfl, rfl, .inl ⟨rfl, rfl⟩⟩
  · exact ⟨old, by rw [List.getElem?_set_ne hkn]; exact hk, rfl, .inr ⟨Ne.symm hkn, rfl⟩⟩

namespace ProcessLifecycle

variable {m t : ProcessLifecycle} {l : LifecycleLabel}

structure Coherent (m : ProcessLifecycle) : Prop where
  stored : ∀ c, m.client = some c → c + 1 = m.launches.length ∧ m.processCancellation = true ∧
    ∃ launch, m.launches[c]? = some launch ∧ launch.generation = m.generation
  idle : m.gate = .resolving ∨ closing m.gate = true → m.client = none
  connecting : ∀ n, m.gate = .connecting n → m.client = none ∧ n + 1 = m.launches.length ∧
    m.processCancellation = true ∧ m.intentionalStop = false ∧
    ∃ launch, m.launches[n]? = some launch ∧ launch.generation = m.generation ∧ launch.phase.early = true
  busy : m.gate = .requesting ∨ m.gate = .disposing ∨ (∃ n, m.gate = .handling n) → m.client ≠ none
  handling : ∀ n, m.gate = .handling n → ∃ launch, m.launches[n]? = some launch
  raising : ∀ n launch willAutoRestart, m.launches[n]? = some launch → launch.phase = .raising willAutoRestart →
    m.client ≠ some n

theorem coherent_init : init.Coherent := by
  refine ⟨?_, ?_, ?_, ?_, ?_, ?_⟩ <;> simp [init, closing]

/-- The Helper of the last launch is known to be gone. -/
def Gone (m : ProcessLifecycle) : Prop :=
  ∃ n launch, n + 1 = m.launches.length ∧ m.launches[n]? = some launch ∧ launch.phase.over = true

def NoStaleClient (m : ProcessLifecycle) : Prop := m.gate = .free → m.Gone → m.client = none

/-- An exception that leaves the gate leaves no client of a Helper that is gone. -/
def ThrowsHarmlessly (m : ProcessLifecycle) : Prop :=
  match m.gate with
  | .requesting | .disposing => ¬ m.Gone
  | .handling n => n + 1 ≠ m.launches.length ∧ ¬ m.Gone
  | _ => True

/-- The condition under which a step leaves no stale client. -/
def LeavesNoClient (m : ProcessLifecycle) : LifecycleLabel → Prop
  | .throws => m.ThrowsHarmlessly
  | .reads n => ¬ (m.gate = .free ∧ m.intentionalStop = true ∧ m.client = some n ∧
      ∃ launch, m.launches[n]? = some launch ∧ launch.phase = .exited)
  | _ => True

/-! ## Coherence -/

/-- Without a client, and with nobody at work on one. -/
theorem coherent_of_closed (hclient : t.client = none) (hgate : t.gate = .resolving ∨ t.Closed) : t.Coherent := by
  have hne : ∀ g, t.gate = g → g = .resolving ∨ closing g = true ∨ g = .free := fun g hg => hg ▸ hgate
  refine ⟨fun c hc => ?_, fun _ => hclient, fun n hn => ?_, fun h => ?_, fun n hn => ?_, fun n launch b _ _ hc => ?_⟩
  · rw [hclient] at hc
    cases hc
  · have := hne _ hn
    simp [closing] at this
  · rcases h with h | h | ⟨n, h⟩ <;> have := hne _ h <;> simp [closing] at this
  · have := hne _ hn
    simp [closing] at this
  · rw [hclient] at hc
    cases hc

/-- A launch that moves on, while the gate stays where it is. -/
theorem Coherent.setPhase (hm : m.Coherent) {n : Nat} {launch : HelperLaunch} {phase : TaskPhase}
    (hn : m.launches[n]? = some launch) (hearly : m.gate = .connecting n → phase.early = true)
    (hraising : ∀ willAutoRestart, phase = .raising willAutoRestart → m.client ≠ some n) :
    (m.setPhase n launch phase).Coherent := by
  have hlength : (m.launches.set n { launch with phase }).length = m.launches.length := List.length_set
  refine ⟨fun c hc => ?_, hm.idle, fun k hk => ?_, hm.busy, fun k hk => ?_, fun k new b hk hb => ?_⟩
  · obtain ⟨hlast, hcancellation, old, hold, hgeneration⟩ := hm.stored c hc
    obtain ⟨new, hnew, hsame, -⟩ := set_kept phase hn hold
    exact ⟨hlast.trans hlength.symm, hcancellation, new, hnew, hsame.trans hgeneration⟩
  · obtain ⟨hclient, hlast, hcancellation, hstop, old, hold, hgeneration, hphase⟩ := hm.connecting k hk
    obtain ⟨new, hnew, hsame, hmoved⟩ := set_kept phase hn hold
    refine ⟨hclient, hlast.trans hlength.symm, hcancellation, hstop, new, hnew, hsame.trans hgeneration, ?_⟩
    rcases hmoved with ⟨rfl, h⟩ | ⟨-, h⟩
    · rw [h]
      exact hearly hk
    · rw [h]
      exact hphase
  · obtain ⟨old, hold⟩ := hm.handling k hk
    obtain ⟨new, hnew, -⟩ := set_kept phase hn hold
    exact ⟨new, hnew⟩
  · rcases set_some hk with ⟨rfl, rfl⟩ | ⟨-, hk⟩
    · exact hraising b hb
    · exact hm.raising k new b hk hb

/-- The gate changes hands over the same client. -/
theorem Coherent.keep (hm : m.Coherent) (hclient : t.client = m.client) (hlaunches : t.launches = m.launches)
    (hgeneration : t.generation = m.generation) (hcancellation : t.processCancellation = m.processCancellation)
    (hgate : t.gate = .free ∨ (t.gate = .requesting ∨ t.gate = .disposing) ∧ m.client ≠ none) : t.Coherent := by
  have hidle : ¬ (t.gate = .resolving ∨ closing t.gate = true) := by
    rcases hgate with h | ⟨h | h, -⟩ <;> simp [h, closing]
  have hconnecting : ∀ n, t.gate ≠ .connecting n := by
    rcases hgate with h | ⟨h | h, -⟩ <;> simp [h]
  have hhandling : ∀ n, t.gate ≠ .handling n := by
    rcases hgate with h | ⟨h | h, -⟩ <;> simp [h]
  refine ⟨?_, fun h => absurd h hidle, fun n h => absurd h (hconnecting n), fun h => ?_,
    fun n h => absurd h (hhandling n), ?_⟩
  · rw [hclient, hlaunches, hgeneration, hcancellation]
    exact hm.stored
  · rw [hclient]
    rcases hgate with hfree | ⟨-, hsome⟩
    · rcases h with h | h | ⟨n, h⟩ <;> simp [hfree] at h
    · exact hsome
  · rw [hclient, hlaunches]
    exact hm.raising

theorem coherent_quiet (hm : m.Coherent) (hbooks : t.books = m.books)
    (hcancellation : closing m.gate = true ∨ t.processCancellation = m.processCancellation)
    (hgate : m.gate = .free ∧ t.gate = .free ∨ m.client = none ∧ t.gate = .resolving ∨
      m.gate = .requesting ∧ t.gate = .disposing ∨ closing m.gate = true ∧ t.Closed ∨
      l = .throws ∧ (m.gate = .requesting ∨ m.gate = .disposing) ∧ t.gate = .free) : t.Coherent := by
  have hclient : t.client = m.client := congrArg Books.client hbooks
  have hkeep : closing m.gate = false →
      t.gate = .free ∨ (t.gate = .requesting ∨ t.gate = .disposing) ∧ m.client ≠ none → t.Coherent := by
    intro hopen
    have hsame := hcancellation.resolve_left (by simp [hopen])
    exact hm.keep hclient (congrArg Books.launches hbooks) (congrArg Books.generation hbooks) hsame
  rcases hgate with ⟨hold, hfree⟩ | ⟨hnone, hres⟩ | ⟨hreq, hdis⟩ | ⟨hclosing, hclosed⟩ | ⟨-, hold, hfree⟩
  · exact hkeep (by rw [hold]; rfl) (.inl hfree)
  · exact coherent_of_closed (hclient.trans hnone) (.inl hres)
  · exact hkeep (by rw [hreq]; rfl) (.inr ⟨.inr hdis, hm.busy (.inl hreq)⟩)
  · exact coherent_of_closed (hclient.trans (hm.idle (.inr hclosing))) (.inr hclosed)
  · exact hkeep (by rcases hold with h | h <;> rw [h] <;> rfl) (.inl hfree)

theorem coherent_launch (hm : m.Coherent) (hgate : m.gate = .resolving) : m.launch.Coherent := by
  have hclient : m.client = none := hm.idle (.inl hgate)
  refine ⟨fun c hc => ?_, fun h => ?_, fun n hn => ?_, fun h => ?_, fun n hn => ?_, fun n launch b _ _ hc => ?_⟩
  · cases hclient.symm.trans hc
  · simp [launch, closing] at h
  · simp only [launch, GateHolder.connecting.injEq] at hn
    subst hn
    exact ⟨hclient, by simp [launch], rfl, rfl, ⟨m.generation + 1, .running⟩, List.getElem?_concat_length, rfl, rfl⟩
  · simp [launch] at h
  · simp [launch] at hn
  · cases hclient.symm.trans hc

theorem coherent_connects (hm : m.Coherent) {n : Nat} (hgate : m.gate = .connecting n)
    (hbooks : t.books = { m.books with client := some n })
    (hcancellation : t.processCancellation = m.processCancellation) (hfree : t.gate = .free) : t.Coherent := by
  obtain ⟨-, hlast, hset, -, launch, hn, hgeneration, hearly⟩ := hm.connecting n hgate
  have hclient : t.client = some n := congrArg Books.client hbooks
  have hlaunches : t.launches = m.launches := congrArg Books.launches hbooks
  have hissued : t.generation = m.generation := congrArg Books.generation hbooks
  refine ⟨fun c hc => ?_, fun h => ?_, fun k h => ?_, fun h => ?_, fun k h => ?_, fun k old b hk hb hc => ?_⟩
  · obtain rfl : n = c := Option.some.inj (hclient.symm.trans hc)
    rw [hlaunches, hcancellation, hissued]
    exact ⟨hlast, hset, launch, hn, hgeneration⟩
  · simp [hfree, closing] at h
  · simp [hfree] at h
  · simp [hfree] at h
  · simp [hfree] at h
  · obtain rfl : n = k := Option.some.inj (hclient.symm.trans hc)
    rw [hlaunches] at hk
    obtain rfl : launch = old := Option.some.inj (hn.symm.trans hk)
    rw [hb] at hearly
    cases hearly

theorem coherent_stops (hm : m.Coherent) {generation : Nat} (hissued : m.gate = .resolving ∨ generation = m.generation)
    (hopen : m.gate = .free ∨ m.gate = .resolving ∨ ∃ n, m.gate = .connecting n)
    (hbooks : t.books = { m.books with generation, intentionalStop := true, stopped := m.stopped ++ m.current.toList })
    (hgate : m.client ≠ none ∧ t.gate = .requesting ∧ (m.gate = .free → t.processCancellation = m.processCancellation) ∨
      m.client = none ∧ t.Closed) : t.Coherent := by
  have hclient : t.client = m.client := congrArg Books.client hbooks
  rcases hgate with ⟨hsome, hreq, hcancellation⟩ | ⟨hnone, hclosed⟩
  · rcases hopen with hfree | hres | ⟨n, hn⟩
    · have hgeneration : t.generation = m.generation :=
        (congrArg Books.generation hbooks).trans (hissued.resolve_left (by simp [hfree]))
      exact hm.keep hclient (congrArg Books.launches hbooks) hgeneration (hcancellation hfree) (.inr ⟨.inl hreq, hsome⟩)
    · exact absurd (hm.idle (.inl hres)) hsome
    · exact absurd (hm.connecting n hn).1 hsome
  · exact coherent_of_closed (hclient.trans hnone) (.inr hclosed)

theorem coherent_task (hm : m.Coherent) {n : Nat} {launch : HelperLaunch} {phase : TaskPhase}
    (hn : m.launches[n]? = some launch) (hmoves : m.TaskMoves launch.phase phase) :
    (m.setPhase n launch phase).Coherent := by
  refine hm.setPhase hn (fun hgate => ?_) (fun b hb => ?_)
  · -- while the client connects the flag is down and the cancellation source is there
    obtain ⟨-, -, hset, hstop, -⟩ := hm.connecting n hgate
    rcases hmoves with ⟨-, rfl⟩ | ⟨-, hgone, -⟩ | ⟨-, hup, -⟩ | ⟨-, -, rfl⟩
    · rfl
    · cases hgone.symm.trans hset
    · cases hup.symm.trans hstop
    · rfl
  · rcases hmoves with ⟨-, h⟩ | ⟨-, -, h⟩ | ⟨-, -, h⟩ | ⟨-, -, h⟩ <;> cases h.symm.trans hb

theorem coherent_step (hm : m.Coherent) (h : m.Moves t l) : t.Coherent := by
  cases h with
  | quiet hbooks hcancellation hgate => exact coherent_quiet hm hbooks hcancellation hgate
  | launches hgate ht => exact ht ▸ coherent_launch hm hgate
  | connects n hgate hbooks hcancellation hfree => exact coherent_connects hm hgate hbooks hcancellation hfree
  | stops generation hissued hle hopen hbooks hgate => exact coherent_stops hm hissued hopen hbooks hgate
  | drops hgate hbooks hclosed => exact coherent_of_closed (congrArg Books.client hbooks) (.inr hclosed)
  | task n launch phase hn hmoves hreads ht => exact ht ▸ coherent_task hm hn hmoves
  | returns n launch hn hwaiting hother hgate ht =>
    subst ht
    exact hm.setPhase hn (fun h => by cases hgate.symm.trans h) (fun b hb => by cases hb)
  | disposes n now c launch hl hn hwaiting hsame hgate hclient ht =>
    have hset : (m.setPhase n launch (.inside m.intentionalStop)).Coherent :=
      hm.setPhase hn (fun h => by cases hgate.symm.trans h) (fun b hb => by cases hb)
    subst ht
    refine ⟨hset.stored, fun h => by simp [closing] at h, fun k h => by simp at h, fun _ => by simp [setPhase, hclient],
      fun k h => ?_, hset.raising⟩
    cases h
    exact ⟨{ launch with phase := .inside m.intentionalStop }, by
      simp only [ProcessLifecycle.setPhase]; rw [List.getElem?_set_self', hn]; rfl⟩
  | concludes n launch intentional phase hn hfrom hphase hbooks hfree =>
    exact coherent_of_closed (congrArg Books.client hbooks) (.inr (.inr hfree))
  | fails n launch hl hn hgate ht =>
    have hset : (m.setPhase n launch .finished).Coherent :=
      hm.setPhase hn (fun h => by cases hgate.symm.trans h) (fun b hb => by cases hb)
    subst ht
    exact hset.keep rfl rfl rfl rfl (.inl rfl)
  | raises n launch b hn hraising ht =>
    have hset : (m.setPhase n launch .finished).Coherent := by
      refine hm.setPhase hn (fun h => ?_) (fun b hb => by cases hb)
      obtain ⟨-, -, -, -, old, hold, -, hearly⟩ := hm.connecting n h
      obtain rfl : launch = old := Option.some.inj (hn.symm.trans hold)
      rw [hraising] at hearly
      cases hearly
    subst ht
    exact ⟨hset.stored, hset.idle, hset.connecting, hset.busy, hset.handling, hset.raising⟩

/-! ## The stale client -/

theorem gone_congr (h : t.launches = m.launches) : t.Gone ↔ m.Gone := by
  unfold Gone
  rw [h]

/-- The last launch is the one that has moved, or it was gone before. -/
theorem gone_setPhase {n : Nat} {launch : HelperLaunch} {phase : TaskPhase} (h : (m.setPhase n launch phase).Gone) :
    n + 1 = m.launches.length ∧ phase.over = true ∨ m.Gone := by
  obtain ⟨k, new, hlength, hk, hover⟩ := h
  have hlast : k + 1 = m.launches.length := hlength.trans List.length_set
  rcases set_some hk with ⟨rfl, rfl⟩ | ⟨-, hk⟩
  · exact .inl ⟨hlast, hover⟩
  · exact .inr ⟨k, new, hlast, hk, hover⟩

theorem setPhase_gone {n : Nat} {launch : HelperLaunch} {phase : TaskPhase} (hn : m.launches[n]? = some launch)
    (hover : phase.over = true) (h : n + 1 = m.launches.length ∨ m.Gone) : (m.setPhase n launch phase).Gone := by
  have hlast : n + 1 = m.launches.length → (m.setPhase n launch phase).Gone := by
    intro hlast
    refine ⟨n, { launch with phase }, hlast.trans List.length_set.symm, ?_, hover⟩
    simp only [setPhase]
    rw [List.getElem?_set_self', hn]
    rfl
  rcases h with h | ⟨k, old, hk, hold, hover'⟩
  · exact hlast h
  · by_cases hkn : n = k
    · exact hlast (hkn ▸ hk)
    · refine ⟨k, old, hk.trans List.length_set.symm, ?_, hover'⟩
      simp only [setPhase]
      rw [List.getElem?_set_ne hkn]
      exact hold

theorem Coherent.client_of_last (hm : m.Coherent) {n : Nat} (hlast : n + 1 = m.launches.length)
    (h : m.client ≠ some n) : m.client = none := by
  cases hclient : m.client with
  | none => rfl
  | some c =>
    have hc := (hm.stored c hclient).1
    obtain rfl : c = n := by omega
    exact absurd hclient h

theorem noStale_task (hm : m.Coherent) (hs : m.NoStaleClient) {n : Nat} {launch : HelperLaunch} {phase : TaskPhase}
    (hok : m.LeavesNoClient l) (hn : m.launches[n]? = some launch) (hmoves : m.TaskMoves launch.phase phase)
    (hreads : launch.phase = .exited → l = .reads n) : (m.setPhase n launch phase).NoStaleClient := by
  intro hfree hgone
  rcases gone_setPhase hgone with ⟨hlast, hover⟩ | hgone
  · refine hm.client_of_last hlast fun hclient => ?_
    rcases hmoves with ⟨-, rfl⟩ | ⟨-, hcancellation, -⟩ | ⟨hexited, hstop, -⟩ | ⟨-, -, rfl⟩
    · cases hover
    · cases hcancellation.symm.trans (hm.stored n hclient).2.1
    · rw [hreads hexited] at hok
      exact hok ⟨hfree, hstop, hclient, launch, hn, hexited⟩
    · cases hover
  · exact hs hfree hgone

theorem noStale_moves (hm : m.Coherent) (hs : m.NoStaleClient) (hok : m.LeavesNoClient l) (h : m.Moves t l) :
    t.NoStaleClient := by
  cases h with
  | quiet hbooks hcancellation hgate =>
    intro hfree hgone
    have hclient : t.client = m.client := congrArg Books.client hbooks
    have hgone := (gone_congr (congrArg Books.launches hbooks)).1 hgone
    rw [hclient]
    rcases hgate with ⟨hold, -⟩ | ⟨hnone, -⟩ | ⟨-, hdis⟩ | ⟨hclosing, -⟩ | ⟨rfl, hold, -⟩
    · exact hs hold hgone
    · exact hnone
    · cases hfree.symm.trans hdis
    · exact hm.idle (.inr hclosing)
    · have hok : m.ThrowsHarmlessly := hok
      unfold ThrowsHarmlessly at hok
      rcases hold with h | h <;> rw [h] at hok <;> exact absurd hgone hok
  | launches hgate ht => exact fun hfree => by rw [ht] at hfree; cases hfree
  | connects n hgate hbooks hcancellation hfree =>
    rintro - hgone
    obtain ⟨-, hlast, -, -, launch, hn, -, hearly⟩ := hm.connecting n hgate
    obtain ⟨k, old, hk, hold, hover⟩ := (gone_congr (congrArg Books.launches hbooks)).1 hgone
    obtain rfl : k = n := by omega
    obtain rfl : launch = old := Option.some.inj (hn.symm.trans hold)
    revert hearly hover
    cases launch.phase <;> simp [TaskPhase.early, TaskPhase.over]
  | stops generation hissued hle hopen hbooks hgate =>
    intro hfree hgone
    rcases hgate with ⟨-, hreq, -⟩ | ⟨hnone, -⟩
    · cases hfree.symm.trans hreq
    · exact (congrArg Books.client hbooks).trans hnone
  | drops hgate hbooks hclosed => exact fun _ _ => congrArg Books.client hbooks
  | task n launch phase hn hmoves hreads ht => exact ht ▸ noStale_task hm hs hok hn hmoves hreads
  | returns n launch hn hwaiting hother hgate ht =>
    subst ht
    intro hfree hgone
    rcases gone_setPhase hgone with ⟨hlast, -⟩ | hgone
    · -- a stored client would be of the current generation
      refine hm.client_of_last hlast fun hclient => hother ?_
      obtain ⟨-, -, old, hold, hgeneration⟩ := hm.stored n hclient
      obtain rfl : launch = old := Option.some.inj (hn.symm.trans hold)
      rw [hgeneration]
    · exact hs hfree hgone
  | disposes n now c launch hl hn hwaiting hsame hgate hclient ht => exact fun hfree => by rw [ht] at hfree; cases hfree
  | concludes n launch intentional phase hn hfrom hphase hbooks hfree => exact fun _ _ => congrArg Books.client hbooks
  | fails n launch hl hn hgate ht =>
    subst ht hl
    have hok : m.ThrowsHarmlessly := hok
    unfold ThrowsHarmlessly at hok
    rw [hgate] at hok
    intro hfree hgone
    rcases gone_setPhase hgone with ⟨hlast, -⟩ | hgone
    · exact absurd hlast hok.1
    · exact absurd hgone hok.2
  | raises n launch b hn hraising ht =>
    subst ht
    intro hfree hgone
    rcases gone_setPhase hgone with ⟨hlast, -⟩ | hgone
    · exact hm.client_of_last hlast (hm.raising n launch b hn hraising)
    · exact hs hfree hgone

/-- A step that the condition forbids stores a stale client. -/
theorem leavesNoClient_of_noStale (hm : m.Coherent) (h : ∀ t, m.step l = some t → t.NoStaleClient) :
    m.LeavesNoClient l := by
  cases l with
  | throws =>
    show m.ThrowsHarmlessly
    unfold ThrowsHarmlessly
    split
    · rename_i hgate
      have hleft := h { m with gate := .free } (by simp [step, hgate]) rfl
      exact fun hgone => hm.busy (.inl hgate) (hleft hgone)
    · rename_i hgate
      have hleft := h { m with gate := .free } (by simp [step, hgate]) rfl
      exact fun hgone => hm.busy (.inr (.inl hgate)) (hleft hgone)
    · rename_i n hgate
      obtain ⟨launch, hn⟩ := hm.handling n hgate
      have hleft := h (m.release n launch .finished) (by simp [step, hgate, hn]) rfl
      have hsome : m.client ≠ none := hm.busy (.inr (.inr ⟨n, hgate⟩))
      exact ⟨fun hlast => hsome (hleft (setPhase_gone hn rfl (.inl hlast))),
        fun hgone => hsome (hleft (setPhase_gone hn rfl (.inr hgone)))⟩
    · trivial
  | reads n =>
    rintro ⟨hgate, hstop, hclient, launch, hn, hexited⟩
    have hstep : m.step (.reads n) = some (m.setPhase n launch .skipped) := by simp [step, hn, hexited, hstop]
    have hnone := h _ hstep hgate (setPhase_gone hn rfl (.inl (hm.stored n hclient).1))
    cases hclient.symm.trans hnone
  | _ => trivial

/-! ## Runs -/

/-- **The stored client is null in every state of a run where the gate is free and the Helper of the last launch is gone,
exactly when every step meets the condition.** -/
theorem no_stale_client_iff (labels : List LifecycleLabel) :
    Run.Always step NoStaleClient init labels ↔ Run.Along step LeavesNoClient init labels := by
  refine Run.always_iff_along_of Coherent _ (fun m l t hm ht => coherent_step hm (step_moves ht)) (fun m l hm hs => ?_)
    labels coherent_init fun _ _ => rfl
  exact ⟨fun hok t ht => noStale_moves hm hs hok (step_moves ht), leavesNoClient_of_noStale hm⟩

/-- A stop whose token fires during the shutdown request, and the end of the process behind it. -/
def canceledStop : List LifecycleLabel := [.ensure, .proceed, .proceed, .stop, .throws, .exits 0, .reads 0]

/-- **A cancelled stop leaves a stale client**: the flag it has set makes the task skip the handler, and the next
`EnsureStartedAsync` returns the client of the Helper that is gone. -/
theorem canceled_stop_leaves_client :
    ¬ Run.Always step NoStaleClient init canceledStop ∧
      (Run.run step init canceledStop).map (fun m => (m.gate, m.client, m.launches)) =
        some (.free, some 0, [⟨1, .skipped⟩]) ∧
      (Run.run step init (canceledStop ++ [.ensure])).map (·.handedOut) = some [0, 0] := by
  have hview : (Run.run step init canceledStop).map (fun m => (m.gate, m.client, m.launches)) =
      some (.free, some 0, [⟨1, .skipped⟩]) := by decide
  refine ⟨fun h => ?_, hview, by decide⟩
  obtain ⟨m, hrun, hm⟩ := Option.map_eq_some_iff.1 hview
  simp only [Prod.mk.injEq] at hm
  obtain ⟨hgate, hclient, hlaunches⟩ := hm
  have hnone := Run.always_last h hrun hgate ⟨0, ⟨1, .skipped⟩, by rw [hlaunches]; rfl, by rw [hlaunches]; rfl, rfl⟩
  cases hclient.symm.trans hnone

end ProcessLifecycle

end Terracotta
