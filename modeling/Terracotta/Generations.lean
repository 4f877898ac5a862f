import Terracotta.StaleClient
/-!
# Exit handlers and generations

An exit handler acts where the generation of its launch is the current one, which the code tells by 32 bits.  While fewer
than 2^32 generations are issued in between, that is the launch itself, so the handler meets its own client or none, and
the flag it reads is the one of its own generation.
-/
namespace Terracotta

/-- A task that will report nothing as long as it reads no flag that is down. -/
def TaskPhase.silent : TaskPhase → Bool
  | .inside intentional => intentional
  | .raising _ => false
  | _ => true

namespace ProcessLifecycle

variable {m t : ProcessLifecycle} {l : LifecycleLabel}

/-- Fewer than 2^32 generations are issued between a launch and the moment its handler gets the gate. -/
def Unwrapped (m : ProcessLifecycle) : LifecycleLabel → Prop
  | .enters n _ => ∀ launch, m.launches[n]? = some launch → m.generation < launch.generation + 2 ^ 32
  | _ => True

/-- What the books of a manager keep to. -/
structure Books.Kept (b : Books) : Prop where
  issued : ∀ (n : Nat) (launch : HelperLaunch), b.launches[n]? = some launch → launch.generation ≤ b.generation
  ordered : (b.launches.map (·.generation)).Pairwise (· < ·)
  flagged : ∀ n ∈ b.stopped, ∃ launch, b.launches[n]? = some launch ∧
    (launch.generation = b.generation → b.intentionalStop = true)
  disposed : ∀ n c, (n, c) ∈ b.disposed → c = n
  cleared : ∀ n c, (n, c) ∈ b.cleared → c = n
  reported : ∀ n ∈ b.reports.map Prod.fst, ∃ launch, b.launches[n]? = some launch ∧ launch.phase = .finished
  once : (b.reports.map Prod.fst).Nodup

theorem kept_init : init.books.Kept := by
  refine ⟨?_, ?_, ?_, ?_, ?_, ?_, ?_⟩ <;> simp [init, books]

variable {b : Books}

/-- A generation belongs to one launch. -/
theorem Books.Kept.launch_unique (hb : b.Kept) {i j : Nat} {x y : HelperLaunch} (hi : b.launches[i]? = some x)
    (hj : b.launches[j]? = some y) (h : x.generation = y.generation) : i = j := by
  have hnodup : (b.launches.map (·.generation)).Nodup := hb.ordered.imp Nat.ne_of_lt
  have hlt : i < (b.launches.map (·.generation)).length := by
    rw [List.length_map]
    exact (List.getElem?_eq_some_iff.1 hi).1
  refine (List.getElem?_inj hlt hnodup).1 ?_
  rw [List.getElem?_map, List.getElem?_map, hi, hj]
  exact congrArg some h

/-! ## One launch moves -/

theorem generations_set {launches : List HelperLaunch} {n : Nat} {launch : HelperLaunch} (phase : TaskPhase)
    (hn : launches[n]? = some launch) :
    (launches.set n { launch with phase }).map (·.generation) = launches.map (·.generation) := by
  obtain ⟨hlt, rfl⟩ := List.getElem?_eq_some_iff.1 hn
  rw [List.map_set]
  apply List.ext_getElem?
  intro k
  by_cases hk : n = k
  · subst hk
    rw [List.getElem?_set_self (by simpa using hlt), List.getElem?_map, hn]
    rfl
  · rw [List.getElem?_set_ne hk]

/-- Only a task that has not finished moves. -/
theorem Books.Kept.set (hb : b.Kept) {n : Nat} {launch : HelperLaunch} (phase : TaskPhase)
    (hn : b.launches[n]? = some launch) (hphase : launch.phase = .finished → phase = .finished) :
    { b with launches := b.launches.set n { launch with phase } }.Kept := by
  refine ⟨fun k new hk => ?_, ?_, fun k hk => ?_, hb.disposed, hb.cleared, fun k hk => ?_, hb.once⟩
  · rcases set_some hk with ⟨rfl, rfl⟩ | ⟨-, hk⟩
    · exact hb.issued k launch hn
    · exact hb.issued k new hk
  · simp only
    rw [generations_set phase hn]
    exact hb.ordered
  · obtain ⟨old, hold, hflag⟩ := hb.flagged k hk
    obtain ⟨new, hnew, hsame, -⟩ := set_kept phase hn hold
    exact ⟨new, hnew, fun h => hflag (hsame.symm.trans h)⟩
  · obtain ⟨old, hold, hfinished⟩ := hb.reported k hk
    obtain ⟨new, hnew, -, hmoved⟩ := set_kept phase hn hold
    refine ⟨new, hnew, ?_⟩
    rcases hmoved with ⟨rfl, h⟩ | ⟨-, h⟩
    · obtain rfl : launch = old := Option.some.inj (hn.symm.trans hold)
      exact h.trans (hphase hfinished)
    · exact h.trans hfinished

/-! ## One step -/

/-- The handler that holds the gate disposes the client of its own launch. -/
def HoldsOwn (m : ProcessLifecycle) : Prop := ∀ n, m.gate = .handling n → m.client = some n

/-- **Within 2^32 generations equal residues are equal generations.** -/
theorem generation_of_residue {n now : Nat} {launch : HelperLaunch} (hb : m.books.Kept) (hok : m.Unwrapped (.enters n now))
    (hn : m.launches[n]? = some launch) (hsame : launch.generation % 2 ^ 32 = m.generation % 2 ^ 32) :
    launch.generation = m.generation := by
  have hle : launch.generation ≤ m.generation := hb.issued n launch hn
  have hlt : m.generation < launch.generation + 2 ^ 32 := hok launch hn
  omega

/-- Who holds the gate to dispose a client held it before, while another task moved, or has just got it. -/
theorem Moves.handling (h : m.Moves t l) {n : Nat} (hn : t.gate = .handling n) :
    (m.gate = .handling n ∧ t.client = m.client ∧ t.intentionalStop = m.intentionalStop ∧
      ∃ k launch phase, m.launches[k]? = some launch ∧ (∀ intentional, launch.phase ≠ .inside intentional) ∧
        t.launches = m.launches.set k { launch with phase }) ∨
    ∃ now c launch, l = .enters n now ∧ m.launches[n]? = some launch ∧
      launch.generation % 2 ^ 32 = m.generation % 2 ^ 32 ∧ m.client = some c ∧ t.client = some c ∧
        t.intentionalStop = m.intentionalStop ∧ t.launches[n]? = some { launch with phase := .inside m.intentionalStop } := by
  have hclosed : ¬ t.Closed := by
    rintro (hc | hfree)
    · rw [hn] at hc
      cases hc
    · cases hfree.symm.trans hn
  cases h with
  | quiet hbooks hcancellation hgate =>
    rcases hgate with ⟨-, h⟩ | ⟨-, h⟩ | ⟨-, h⟩ | ⟨-, h⟩ | ⟨-, -, h⟩
    · cases h.symm.trans hn
    · cases h.symm.trans hn
    · cases h.symm.trans hn
    · exact absurd h hclosed
    · cases h.symm.trans hn
  | launches hgate ht => rw [ht] at hn; cases hn
  | connects k hgate hbooks hcancellation hfree => cases hfree.symm.trans hn
  | stops generation hissued hle hopen hbooks hgate =>
    rcases hgate with ⟨-, h, -⟩ | ⟨-, h⟩
    · cases h.symm.trans hn
    · exact absurd h hclosed
  | drops hgate hbooks h => exact absurd h hclosed
  | task k launch phase hk hmoves hreads ht =>
    subst ht
    refine .inl ⟨hn, rfl, rfl, k, launch, phase, hk, fun intentional hinside => ?_, rfl⟩
    rcases hmoves with ⟨h, -⟩ | ⟨h, -⟩ | ⟨h, -⟩ | ⟨h, -⟩ <;> cases h.symm.trans hinside
  | returns k launch hk hwaiting hother hgate ht =>
    subst ht
    cases hgate.symm.trans hn
  | disposes k now c launch hl hk hwaiting hsame hgate hclient ht =>
    subst ht
    cases hn
    refine .inr ⟨now, c, launch, hl, hk, hsame, hclient, hclient, rfl, ?_⟩
    simp only [setPhase]
    rw [List.getElem?_set_self', hk]
    rfl
  | concludes k launch intentional phase hk hfrom hphase hbooks hfree => cases hfree.symm.trans hn
  | fails k launch hl hk hgate ht => rw [ht] at hn; cases hn
  | raises k launch willAutoRestart hk hraising ht =>
    subst ht
    exact .inl ⟨hn, rfl, rfl, k, launch, .finished, hk, fun intentional h => (by cases hraising.symm.trans h), rfl⟩

theorem holdsOwn_step (hm : m.Coherent) (hb : m.books.Kept) (ho : m.HoldsOwn) (hok : m.Unwrapped l) (h : m.Moves t l) :
    t.HoldsOwn := by
  intro n hn
  rcases h.handling hn with ⟨hold, hclient, -⟩ | ⟨now, c, launch, rfl, hk, hsame, hstored, hclient, -⟩
  · exact hclient.trans (ho n hold)
  · obtain ⟨-, -, old, hold, hcurrent⟩ := hm.stored c hstored
    have hgeneration := generation_of_residue hb hok hk hsame
    obtain rfl : n = c := hb.launch_unique hk hold (hgeneration.trans hcurrent.symm)
    exact hclient

/-- The launch a flag is set for. -/
theorem current_mem {n : Nat} (h : n ∈ m.current.toList) : ∃ launch, m.launches[n]? = some launch := by
  unfold current at h
  split at h
  · cases h
  · rename_i k hk
    obtain rfl : n = k := by simpa using h
    exact ⟨m.launches[n], List.getElem?_eq_getElem (by omega)⟩

theorem kept_launch (hb : m.books.Kept) : m.launch.books.Kept := by
  have hold : ∀ n launch, m.launches[n]? = some launch → (m.launches ++ [⟨m.generation + 1, .running⟩])[n]? = some launch :=
    fun n launch hn => by rw [List.getElem?_append_left (List.getElem?_eq_some_iff.1 hn).1]; exact hn
  refine ⟨fun n launch hn => ?_, ?_, fun n hn => ?_, hb.disposed, hb.cleared, fun n hn => ?_, hb.once⟩
  · simp only [books, ProcessLifecycle.launch, List.getElem?_append] at hn
    split at hn
    · exact Nat.le_succ_of_le (hb.issued n launch hn)
    · rw [List.mem_singleton.1 (List.mem_of_getElem? hn)]
      exact Nat.le_refl _
  · simp only [books, ProcessLifecycle.launch, List.map_append, List.map_cons, List.map_nil]
    rw [List.pairwise_append]
    refine ⟨hb.ordered, List.pairwise_singleton _ _, fun g hg k hk => ?_⟩
    obtain ⟨launch, hmem, rfl⟩ := List.mem_map.1 hg
    obtain ⟨n, hn⟩ := List.getElem?_of_mem hmem
    have hle : launch.generation ≤ m.generation := hb.issued n launch hn
    rw [List.mem_singleton.1 hk]
    omega
  · obtain ⟨launch, hlaunch, -⟩ := hb.flagged n hn
    have hle : launch.generation ≤ m.generation := hb.issued n launch hlaunch
    refine ⟨launch, hold n launch hlaunch, fun h => ?_⟩
    simp only [books, ProcessLifecycle.launch] at h
    omega
  · obtain ⟨launch, hlaunch, hfinished⟩ := hb.reported n hn
    exact ⟨launch, hold n launch hlaunch, hfinished⟩

theorem kept_step (hm : m.Coherent) (hb : m.books.Kept) (ho : m.HoldsOwn) (hok : m.Unwrapped l) (h : m.Moves t l) :
    t.books.Kept := by
  cases h with
  | quiet hbooks => exact hbooks ▸ hb
  | launches hgate ht => exact ht ▸ kept_launch hb
  | connects n hgate hbooks =>
    rw [hbooks]
    exact ⟨hb.issued, hb.ordered, hb.flagged, hb.disposed, hb.cleared, hb.reported, hb.once⟩
  | stops generation hissued hle hopen hbooks =>
    rw [hbooks]
    refine ⟨fun n launch hn => Nat.le_trans (hb.issued n launch hn) hle, hb.ordered, fun n hn => ?_, hb.disposed,
      hb.cleared, hb.reported, hb.once⟩
    rcases List.mem_append.1 hn with hn | hn
    · obtain ⟨launch, hlaunch, -⟩ := hb.flagged n hn
      exact ⟨launch, hlaunch, fun _ => rfl⟩
    · obtain ⟨launch, hlaunch⟩ := current_mem hn
      exact ⟨launch, hlaunch, fun _ => rfl⟩
  | drops hgate hbooks =>
    rw [hbooks]
    exact ⟨hb.issued, hb.ordered, hb.flagged, hb.disposed, hb.cleared, hb.reported, hb.once⟩
  | task n launch phase hn hmoves hreads ht =>
    rw [ht]
    refine hb.set phase hn fun h => ?_
    rcases hmoves with ⟨h', -⟩ | ⟨h', -⟩ | ⟨h', -⟩ | ⟨h', -⟩ <;> cases h'.symm.trans h
  | returns n launch hn hwaiting hother hgate ht =>
    rw [ht]
    exact hb.set .finished hn fun _ => rfl
  | disposes n now c launch hl hn hwaiting hsame hgate hclient ht =>
    -- the client that is stored is of the current generation, which is the handler's
    have hown : c = n := by
      subst hl
      obtain ⟨-, -, stored, hstored, hcurrent⟩ := hm.stored c hclient
      have hgeneration := generation_of_residue hb hok hn hsame
      exact hb.launch_unique hstored hn (hcurrent.trans hgeneration.symm)
    have hset := hb.set (.inside m.intentionalStop) hn fun h => by cases hwaiting.symm.trans h
    rw [ht]
    refine ⟨hset.issued, hset.ordered, hset.flagged, fun k d hd => ?_, hset.cleared, hset.reported, hset.once⟩
    rcases List.mem_append.1 hd with hd | hd
    · exact hb.disposed k d hd
    · cases List.mem_singleton.1 hd
      exact hown
  | concludes n launch intentional phase hn hfrom hphase hbooks hfree =>
    have hset := hb.set phase hn fun h => by
      rcases hfrom with ⟨-, -, h', -⟩ | ⟨-, h'⟩ <;> cases h'.symm.trans h
    rw [hbooks]
    refine ⟨hset.issued, hset.ordered, hset.flagged, hset.disposed, fun k d hd => ?_, hset.reported, hset.once⟩
    rcases List.mem_append.1 hd with hd | hd
    · exact hb.cleared k d hd
    · rcases hfrom with ⟨-, -, -, hnone, -⟩ | ⟨hgate, -⟩
      · rw [hnone] at hd
        cases hd
      · rw [ho n hgate] at hd
        cases List.mem_singleton.1 hd
        rfl
  | fails n launch hl hn hgate ht =>
    rw [ht]
    exact hb.set .finished hn fun _ => rfl
  | raises n launch willAutoRestart hn hraising ht =>
    have hset := hb.set .finished hn fun _ => rfl
    have hnew : n ∉ m.reports.map Prod.fst := by
      intro hmem
      obtain ⟨old, hold, hfinished⟩ := hb.reported n hmem
      obtain rfl : launch = old := Option.some.inj (hn.symm.trans hold)
      cases hraising.symm.trans hfinished
    rw [ht]
    refine ⟨hset.issued, hset.ordered, hset.flagged, hset.disposed, hset.cleared, fun k hk => ?_, ?_⟩
    · rw [show (_ : Books).reports = m.reports ++ [(n, willAutoRestart)] from rfl, List.map_append] at hk
      rcases List.mem_append.1 hk with hk | hk
      · exact hset.reported k hk
      · obtain rfl : k = n := by simpa using hk
        obtain ⟨new, hset', -, hmoved⟩ := set_kept .finished hn hn
        exact ⟨new, hset', hmoved.elim And.right fun h => absurd rfl h.1⟩
    · show ((m.reports ++ [(n, willAutoRestart)]).map Prod.fst).Nodup
      rw [List.map_append, List.nodup_append]
      refine ⟨hb.once, by simp, fun a ha c hc heq => hnew ?_⟩
      obtain rfl : c = n := by simpa using hc
      exact heq ▸ ha

/-! ## A stopped generation -/

/-- HelperLaunch `n` is stopped, and its task is not on its way to a report. -/
structure Silenced (n : Nat) (m : ProcessLifecycle) : Prop where
  stopped : n ∈ m.stopped
  silent : ∃ launch, m.launches[n]? = some launch ∧ launch.phase.silent = true
  unreported : n ∉ m.reports.map Prod.fst

theorem silent_set {launches : List HelperLaunch} {n k : Nat} {launch : HelperLaunch} (phase : TaskPhase)
    (h : ∃ launch, launches[n]? = some launch ∧ launch.phase.silent = true) (hk : launches[k]? = some launch)
    (hphase : k = n → phase.silent = true) :
    ∃ new, (launches.set k { launch with phase })[n]? = some new ∧ new.phase.silent = true := by
  obtain ⟨old, hn, hsilent⟩ := h
  obtain ⟨new, hnew, -, hmoved⟩ := set_kept phase hk hn
  refine ⟨new, hnew, ?_⟩
  rcases hmoved with ⟨rfl, h⟩ | ⟨-, h⟩
  · rw [h]
    exact hphase rfl
  · rw [h]
    exact hsilent

/-- **The flag a handler of a stopped launch reads is up**, where it gets past its generation test. -/
theorem flag_of_stopped {n now : Nat} {launch : HelperLaunch} (hb : m.books.Kept) (hok : m.Unwrapped (.enters n now))
    (hn : m.launches[n]? = some launch) (hsame : launch.generation % 2 ^ 32 = m.generation % 2 ^ 32)
    (hstopped : n ∈ m.stopped) : m.intentionalStop = true := by
  obtain ⟨old, hold, hflag⟩ := hb.flagged n hstopped
  obtain rfl : launch = old := Option.some.inj (hn.symm.trans hold)
  exact hflag (generation_of_residue hb hok hn hsame)

theorem silenced_step {n : Nat} (hb : m.books.Kept) (hok : m.Unwrapped l) (hs : Silenced n m) (h : m.Moves t l) :
    Silenced n t := by
  have hsame : ∀ b : Books, t.books = b → b.launches = m.launches → m.stopped ⊆ b.stopped → b.reports = m.reports →
      Silenced n t := by
    rintro b rfl hlaunches hstopped hreports
    have hlaunches : t.launches = m.launches := hlaunches
    have hreports : t.reports = m.reports := hreports
    exact ⟨hstopped hs.stopped, by rw [hlaunches]; exact hs.silent, by rw [hreports]; exact hs.unreported⟩
  cases h with
  | quiet hbooks => exact hsame m.books hbooks rfl (List.Subset.refl _) rfl
  | launches hgate ht =>
    obtain ⟨launch, hn, hsilent⟩ := hs.silent
    rw [ht]
    refine ⟨hs.stopped, ⟨launch, ?_, hsilent⟩, hs.unreported⟩
    simp only [ProcessLifecycle.launch]
    rw [List.getElem?_append_left (List.getElem?_eq_some_iff.1 hn).1]
    exact hn
  | connects k hgate hbooks => exact hsame _ hbooks rfl (List.Subset.refl _) rfl
  | stops generation hissued hle hopen hbooks => exact hsame _ hbooks rfl (List.subset_append_left _ _) rfl
  | drops hgate hbooks => exact hsame _ hbooks rfl (List.Subset.refl _) rfl
  | task k launch phase hk hmoves hreads ht =>
    rw [ht]
    refine ⟨hs.stopped, silent_set _ hs.silent hk fun _ => ?_, hs.unreported⟩
    rcases hmoves with ⟨-, rfl⟩ | ⟨-, -, rfl⟩ | ⟨-, -, rfl⟩ | ⟨-, -, rfl⟩ <;> rfl
  | returns k launch hk hwaiting hother hgate ht =>
    rw [ht]
    exact ⟨hs.stopped, silent_set _ hs.silent hk fun _ => rfl, hs.unreported⟩
  | disposes k now c launch hl hk hwaiting hsame' hgate hclient ht =>
    subst hl
    rw [ht]
    refine ⟨hs.stopped, silent_set _ hs.silent hk fun hkn => ?_, hs.unreported⟩
    exact flag_of_stopped hb hok hk hsame' (hkn ▸ hs.stopped)
  | concludes k launch intentional phase hk hfrom hphase hbooks hfree =>
    have hintentional : k = n → intentional = true := by
      rintro rfl
      rcases hfrom with ⟨⟨now, rfl⟩, -, -, -, hsame', rfl⟩ | ⟨-, hinside⟩
      · exact flag_of_stopped hb hok hk hsame' hs.stopped
      · obtain ⟨old, hold, hsilent⟩ := hs.silent
        obtain rfl : launch = old := Option.some.inj (hk.symm.trans hold)
        rw [hinside] at hsilent
        exact hsilent
    have hsilent := silent_set phase hs.silent hk fun hkn => by
      rcases hphase with ⟨-, rfl⟩ | ⟨hdown, -⟩
      · rfl
      · cases hdown.symm.trans (hintentional hkn)
    have hlaunches : t.launches = m.launches.set k { launch with phase } := congrArg Books.launches hbooks
    have hstopped : t.stopped = m.stopped := congrArg Books.stopped hbooks
    have hreports : t.reports = m.reports := congrArg Books.reports hbooks
    exact ⟨hstopped ▸ hs.stopped, by rw [hlaunches]; exact hsilent, by rw [hreports]; exact hs.unreported⟩
  | fails k launch hl hk hgate ht =>
    rw [ht]
    exact ⟨hs.stopped, silent_set _ hs.silent hk fun _ => rfl, hs.unreported⟩
  | raises k launch willAutoRestart hk hraising ht =>
    have hkn : k ≠ n := by
      rintro rfl
      obtain ⟨old, hold, hsilent⟩ := hs.silent
      obtain rfl : launch = old := Option.some.inj (hk.symm.trans hold)
      rw [hraising] at hsilent
      cases hsilent
    rw [ht]
    refine ⟨hs.stopped, silent_set _ hs.silent hk fun h => absurd h hkn, ?_⟩
    show n ∉ (m.reports ++ [(k, willAutoRestart)]).map Prod.fst
    rw [List.map_append, List.mem_append, not_or]
    exact ⟨hs.unreported, by simpa using Ne.symm hkn⟩

/-! ## Runs -/

/-- What holds in every state of a run without a wrap. -/
structure Sound (m : ProcessLifecycle) : Prop where
  coherent : m.Coherent
  kept : m.books.Kept
  holdsOwn : m.HoldsOwn

theorem sound_init : init.Sound := ⟨coherent_init, kept_init, fun n hn => by cases hn⟩

theorem sound_step (hs : m.Sound) (hok : m.Unwrapped l) (h : m.step l = some t) : t.Sound :=
  have hmoves := step_moves h
  ⟨coherent_step hs.coherent hmoves, kept_step hs.coherent hs.kept hs.holdsOwn hok hmoves,
    holdsOwn_step hs.coherent hs.kept hs.holdsOwn hok hmoves⟩

theorem sound_run {labels : List LifecycleLabel} {s : ProcessLifecycle} (hs : s.Sound)
    (hok : Run.Along step Unwrapped s labels) (hrun : Run.run step s labels = some t) : t.Sound :=
  Run.invariant Sound (fun _ _ _ hs hok h => sound_step hs hok h) hs hok hrun

theorem silenced_run {n : Nat} {labels : List LifecycleLabel} {s : ProcessLifecycle} (hs : s.Sound) (hn : Silenced n s)
    (hok : Run.Along step Unwrapped s labels) (hrun : Run.run step s labels = some t) : Silenced n t := by
  have h : t.Sound ∧ Silenced n t := Run.invariant (fun m => m.Sound ∧ Silenced n m)
    (fun _ _ _ hm hok h => ⟨sound_step hm.1 hok h, silenced_step hm.1.kept hok hm.2 (step_moves h)⟩) ⟨hs, hn⟩ hok hrun
  exact h.2

theorem early_silent {phase : TaskPhase} (h : phase.early = true) : phase.silent = true ∧ phase ≠ .finished := by
  cases phase <;> simp_all [TaskPhase.early, TaskPhase.silent]

/-- **An exit handler keeps to its generation**, in every run in which fewer than 2^32 generations are issued between a
launch and the moment its handler gets the gate: the client it disposes and clears is its own, it reports once at most,
and not at all where its launch was stopped before it got the gate. -/
theorem exit_handlers_keep_to_their_generation {labels : List LifecycleLabel} (hrun : Run.run step init labels = some t)
    (hok : Run.Along step Unwrapped init labels) :
    (∀ n c, (n, c) ∈ t.disposed ∨ (n, c) ∈ t.cleared → c = n) ∧ (t.reports.map Prod.fst).Nodup ∧
      ∀ (before after : List LifecycleLabel) (s : ProcessLifecycle) (n : Nat) (launch : HelperLaunch),
        labels = before ++ after → Run.run step init before = some s → n ∈ s.stopped → s.launches[n]? = some launch →
          launch.phase.early = true → n ∉ t.reports.map Prod.fst := by
  have ht : t.Sound := sound_run sound_init hok hrun
  refine ⟨fun n c h => h.elim (ht.kept.disposed n c) (ht.kept.cleared n c), ht.kept.once, ?_⟩
  rintro before after s n launch rfl hbefore hstopped hn hearly
  obtain ⟨s', hs', hafter⟩ := Run.run_append hrun
  obtain rfl : s = s' := Option.some.inj (hbefore.symm.trans hs')
  obtain ⟨hok₁, hok₂⟩ := Run.along_append hok hbefore
  have hs : s.Sound := sound_run sound_init hok₁ hbefore
  obtain ⟨hsilent, hunfinished⟩ := early_silent hearly
  have hunreported : n ∉ s.reports.map Prod.fst := by
    intro hmem
    obtain ⟨old, hold, hfinished⟩ := hs.kept.reported n hmem
    obtain rfl : launch = old := Option.some.inj (hn.symm.trans hold)
    exact hunfinished hfinished
  exact (silenced_run hs ⟨hstopped, ⟨launch, hn, hsilent⟩, hunreported⟩ hok₂ hafter).unreported

/-- A crash that is reported, and a second launch that is stopped while its handler waits for the gate. -/
def crashThenStop : List LifecycleLabel :=
  [.ensure, .proceed, .proceed, .exits 0, .reads 0, .enters 0 5, .handled 5, .raises 0,
    .ensure, .proceed, .proceed, .exits 1, .reads 1, .stop, .proceed, .proceed, .throws, .enters 1 9]

theorem crash_then_stop_reports_once : ∃ t, Run.run step init crashThenStop = some t ∧
    t.reports = [(0, true)] ∧ t.disposed = [(0, 0)] ∧ t.stopped = [1] ∧
    (∀ n c, (n, c) ∈ t.disposed ∨ (n, c) ∈ t.cleared → c = n) ∧ 1 ∉ t.reports.map Prod.fst := by
  have hok : Run.Along step Unwrapped init crashThenStop := by
    refine ⟨trivial, trivial, trivial, trivial, trivial, fun launch hn => ?_, trivial, trivial, trivial, trivial, trivial,
      trivial, trivial, trivial, trivial, trivial, trivial, fun launch hn => ?_, trivial⟩
    · cases hn
      decide
    · cases hn
      decide
  exact ⟨_, rfl, rfl, rfl, rfl, (exit_handlers_keep_to_their_generation rfl hok).1,
    (exit_handlers_keep_to_their_generation rfl hok).2.2 (crashThenStop.take 14) (crashThenStop.drop 14) _ 1 _ rfl rfl
      (List.mem_singleton.2 rfl) rfl rfl⟩

/-! ## The wrap -/

/-- The client of launch `k` is stored, and the process of the first launch still runs. -/
structure Ready (k : Nat) (m : ProcessLifecycle) : Prop where
  gate : m.gate = .free
  client : m.client = some k
  processTask : m.processTask = some k
  generation : m.generation = k + 1
  flag : m.intentionalStop = false
  length : m.launches.length = k + 1
  first : m.launches[0]? = some ⟨1, .running⟩

theorem ready_one : ∃ m, Run.run step init [.ensure, .proceed, .proceed] = some m ∧ Ready 0 m :=
  ⟨_, rfl, rfl, rfl, rfl, rfl, rfl, rfl, rfl⟩

/-- A stop that gives up while it joins the task, and a start. -/
def restart : List LifecycleLabel := [.stop, .proceed, .proceed, .throws, .ensure, .proceed, .proceed]

theorem ready_restart {k : Nat} (h : Ready k m) : ∃ t, Run.run step m restart = some t ∧ Ready (k + 1) t := by
  obtain ⟨hgate, hclient, htask, hgeneration, hflag, hlength, hfirst⟩ := h
  obtain ⟨client, processTask, processCancellation, endpoint, generation, flag, crashCount, crashWindowStart, gate,
    launches, handedOut, stopped, disposed, cleared, reports⟩ := m
  simp only at hgate hclient htask hgeneration hflag hlength hfirst
  subst hgate hclient htask hgeneration hflag
  refine ⟨_, rfl, rfl, ?_, ?_, rfl, rfl, ?_, ?_⟩
  · exact congrArg some hlength
  · exact congrArg some hlength
  · show (launches ++ [_]).length = _
    rw [List.length_append, hlength]
    rfl
  · show (launches ++ [_])[0]? = _
    rw [List.getElem?_append_left (by omega)]
    exact hfirst

theorem exists_ready : ∀ k, ∃ labels m, Run.run step init labels = some m ∧ Ready k m
  | 0 => ⟨_, ready_one⟩
  | k + 1 => by
    obtain ⟨labels, m, hrun, hready⟩ := exists_ready k
    obtain ⟨t, ht, hnext⟩ := ready_restart hready
    exact ⟨labels ++ restart, t, Run.run_trans hrun ht, hnext⟩

theorem setPhase_first {launch : HelperLaunch} (h : m.launches[0]? = some launch) (phase : TaskPhase) :
    (m.setPhase 0 launch phase).launches[0]? = some { launch with phase } := by
  simp only [setPhase]
  rw [List.getElem?_set_self', h]
  rfl

theorem ready_collides {k : Nat} (h : Ready k m) (hsame : 1 % 2 ^ 32 = (k + 1) % 2 ^ 32) :
    ∃ t, Run.run step m [.exits 0, .reads 0, .enters 0 0] = some t ∧ (0, k) ∈ t.disposed := by
  let a := m.setPhase 0 ⟨1, .running⟩ .exited
  let b := a.setPhase 0 ⟨1, .exited⟩ .waiting
  have ha : a.launches[0]? = some ⟨1, .exited⟩ := setPhase_first h.first .exited
  have hb : b.launches[0]? = some ⟨1, .waiting⟩ := setPhase_first ha .waiting
  have hexits : m.step (.exits 0) = some a := by simp [step, h.first, a]
  have hreads : a.step (.reads 0) = some b := by
    have hflag : a.intentionalStop = false := h.flag
    simp [step, ha, hflag, b]
  have hfree : b.gate = .free := h.gate
  have henters : b.step (.enters 0 0) = some (b.enter 0 ⟨1, .waiting⟩ 0) := by simp [step, hb, hfree]
  refine ⟨b.enter 0 ⟨1, .waiting⟩ 0, by simp [Run.run, hexits, hreads, henters], ?_⟩
  have hgeneration : b.generation = k + 1 := h.generation
  have hclient : b.client = some k := h.client
  unfold enter
  rw [if_neg (by rw [hgeneration]; exact fun hne => hne hsame), hclient]
  exact List.mem_append_right _ (List.mem_singleton.2 rfl)

/-- **After 2^32 launches the first handler disposes the last client**: the two generations are the same 32 bits. -/
theorem first_handler_disposes_last_client : ∃ labels m, Run.run step init labels = some m ∧
    (0, 2 ^ 32) ∈ m.disposed := by
  obtain ⟨labels, m, hrun, hready⟩ := exists_ready (2 ^ 32)
  obtain ⟨t, ht, hmem⟩ := ready_collides hready (Nat.add_mod_left (2 ^ 32) 1).symm
  exact ⟨_, t, Run.run_trans hrun ht, hmem⟩

end ProcessLifecycle

end Terracotta
