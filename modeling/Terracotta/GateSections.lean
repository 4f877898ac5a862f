import Terracotta.Generations
/-!
# One holder of the gate, one function

`HelperProcessManager` takes each of its functions as one step, `ProcessLifecycle` await by await.  What the gate protects
agrees: when the gate is free again, its last holder has done what one of the functions does, an exception among its
awaits being the outcome of the function.
-/
namespace Terracotta

/-- The fields only a holder of the gate writes; a client is told by its generation. -/
structure Gated where
  client : Option Nat
  generation : Nat
  intentionalStop : Bool
  crashCount : Nat
  crashWindowStart : Nat
deriving DecidableEq, Repr

def Gated.flagged (g : Gated) : Gated := { g with intentionalStop := true }

def Gated.dropped (g : Gated) : Gated := { g with client := none }

def Gated.reset (g : Gated) : Gated := { g with crashCount := 0, crashWindowStart := 0 }

def Gated.launched (g : Gated) : Gated := { g with generation := g.generation + 1, intentionalStop := false }

theorem Gated.dropped_of_none {g : Gated} (h : g.client = none) : g.dropped = g := by
  unfold dropped
  rw [← h]

def Gated.countCrash (g : Gated) (now : Nat) : Gated :=
  if HelperProcessManager.crashWindow < now - g.crashWindowStart then { g with crashWindowStart := now, crashCount := 1 }
  else { g with crashCount := g.crashCount + 1 }

/-- What a handler leaves of its own generation. -/
def Gated.concluded (g : Gated) (now : Nat) : Gated :=
  if g.intentionalStop then g.dropped else g.dropped.countCrash now

/-- What one holder of the gate does; a failed start ends in a stop. -/
inductive GateSection
  | ensureStarted
  | stops (failedStart : Option Bool) (outcome : StopOutcome)
  | processEnded (generation now : Nat)
deriving DecidableEq, Repr

namespace HelperProcessManager

def gated (h : HelperProcessManager) : Gated :=
  ⟨h.client, h.generation, h.intentionalStop, h.crashCount, h.crashWindowStart⟩

def apply (h : HelperProcessManager) : GateSection → HelperProcessManager
  | .ensureStarted => h.ensureStarted
  | .stops none outcome => h.stopCore outcome
  | .stops (some launched) outcome => h.startFailed launched outcome
  | .processEnded generation now => h.onProcessEnded generation now

theorem countCrash_gated (h : HelperProcessManager) (now : Nat) : (h.countCrash now).gated = h.gated.countCrash now := by
  unfold countCrash Gated.countCrash
  have hsame : h.gated.crashWindowStart = h.crashWindowStart := rfl
  rw [hsame]
  by_cases hwindow : crashWindow < now - h.crashWindowStart
  · rw [if_pos hwindow, if_pos hwindow]
    rfl
  · rw [if_neg hwindow, if_neg hwindow]
    rfl

theorem onProcessEnded_gated (h : HelperProcessManager) (now : Nat) :
    (h.onProcessEnded h.generation now).gated = h.gated.concluded now := by
  unfold onProcessEnded Gated.concluded
  have hsame : h.gated.intentionalStop = h.intentionalStop := rfl
  rw [if_neg (not_not_intro rfl)]
  simp only [hsame]
  by_cases hflag : h.intentionalStop = true
  · rw [if_pos hflag, if_pos hflag]
    rfl
  · rw [if_neg hflag, if_neg hflag]
    exact countCrash_gated { h with client := none } now

/-- What is gated when `StopCoreAsync` begins, behind a start that failed or not. -/
def stopBase (h : HelperProcessManager) : Option Bool → Gated
  | some true => h.gated.launched
  | some false | none => h.gated

theorem stops_clientGone (h : HelperProcessManager) (failedStart : Option Bool) :
    (h.apply (.stops failedStart .clientGone)).gated = (h.stopBase failedStart).flagged.dropped := by
  rcases failedStart with _ | _ | _ <;> rfl

theorem stops_completed (h : HelperProcessManager) (failedStart : Option Bool) :
    (h.apply (.stops failedStart .completed)).gated = (h.stopBase failedStart).flagged.dropped.reset := by
  rcases failedStart with _ | _ | _ <;> rfl

end HelperProcessManager

namespace ProcessLifecycle

open HelperProcessManager (apply)

variable {m t : ProcessLifecycle} {l : LifecycleLabel} {h : HelperProcessManager}

def gated (m : ProcessLifecycle) : Gated :=
  ⟨m.client.bind (fun c => m.launches[c]?.map (·.generation)), m.generation, m.intentionalStop, m.crashCount,
    m.crashWindowStart⟩

/-- Where the holder of the gate is in the function it carries out on `h`. -/
def Within (h : HelperProcessManager) (m : ProcessLifecycle) : Prop :=
  match m.gate with
  | .free | .handling _ => m.gated = h.gated
  | .resolving => m.gated = h.gated ∧ h.client = none
  | .connecting _ => m.gated = h.gated.launched ∧ h.client = none
  | .requesting | .disposing => m.gated = h.gated.flagged
  | .joining | .canceling | .disposingTask | .disposingEndpoint =>
    ∃ failedStart, m.gated = (h.stopBase failedStart).flagged.dropped

/-! ## What is gated -/

theorem gated_setPhase {n : Nat} {launch : HelperLaunch} (phase : TaskPhase) (hn : m.launches[n]? = some launch) :
    (m.setPhase n launch phase).gated = m.gated := by
  have hclient : ∀ c : Nat, ((m.launches.set n { launch with phase })[c]?).map HelperLaunch.generation =
      (m.launches[c]?).map HelperLaunch.generation := by
    intro c
    rw [← List.getElem?_map, ← List.getElem?_map, generations_set phase hn]
  simp only [gated, setPhase, Gated.mk.injEq, and_true]
  cases m.client with
  | none => rfl
  | some c => exact hclient c

theorem countCrash_gated (m : ProcessLifecycle) (now : Nat) : (m.countCrash now).gated = m.gated.countCrash now := by
  unfold countCrash Gated.countCrash
  have hsame : m.gated.crashWindowStart = m.crashWindowStart := rfl
  rw [hsame]
  by_cases hwindow : HelperProcessManager.crashWindow < now - m.crashWindowStart
  · rw [if_pos hwindow, if_pos hwindow]
    rfl
  · rw [if_neg hwindow, if_neg hwindow]
    rfl

theorem release_gated {n : Nat} {launch : HelperLaunch} (phase : TaskPhase) (hn : m.launches[n]? = some launch) :
    (m.release n launch phase).gated = m.gated := gated_setPhase phase hn

theorem conclude_gated {n : Nat} {launch : HelperLaunch} (now : Nat) (hn : m.launches[n]? = some launch) :
    (m.conclude n launch m.intentionalStop now).gated = m.gated.concluded now := by
  let u : ProcessLifecycle := { m with client := none, cleared := m.cleared ++ m.client.toList.map (n, ·) }
  have hu : u.launches[n]? = some launch := hn
  have hcrash : (u.countCrash now).launches[n]? = some launch := by
    have hsame : (u.countCrash now).launches = u.launches := congrArg Books.launches (countCrash_books u now)
    rw [hsame]
    exact hu
  have hsame : m.gated.intentionalStop = m.intentionalStop := rfl
  unfold conclude Gated.concluded
  simp only [hsame]
  by_cases hflag : m.intentionalStop = true
  · rw [if_pos hflag, if_pos hflag]
    exact release_gated .finished hu
  · rw [if_neg hflag, if_neg hflag]
    exact (release_gated _ hcrash).trans (countCrash_gated u now)

/-! ## `StopCoreAsync` behind the client -/

/-- The end of `StopCoreAsync` from `g`: it is still in an await, or through. -/
def Ends (g : Gated) (t : ProcessLifecycle) : Prop :=
  closing t.gate = true ∧ t.gated = g ∨ t.gate = .free ∧ t.gated = g.reset

theorem stopEndpoint_ends (m : ProcessLifecycle) : Ends m.gated m.stopEndpoint := by
  unfold stopEndpoint
  simp only
  split
  · exact .inl ⟨rfl, rfl⟩
  · exact .inr ⟨rfl, rfl⟩

theorem stopTask_ends (m : ProcessLifecycle) : Ends m.gated m.stopTask := by
  unfold stopTask
  split
  · exact .inl ⟨rfl, rfl⟩
  · exact stopEndpoint_ends m

theorem stopCore_ends (hclient : m.client = none) : Ends m.gated.flagged m.stopCore := by
  unfold stopCore
  simp only
  split
  · rename_i c hc
    cases hclient.symm.trans hc
  · exact stopTask_ends { m with intentionalStop := true, stopped := m.stopped ++ m.current.toList }

theorem within_of_closing {failedStart : Option Bool} (hclosing : closing t.gate = true)
    (ht : t.gated = (h.stopBase failedStart).flagged.dropped) : Within h t := by
  unfold Within
  cases hgate : t.gate <;> rw [hgate] at hclosing <;> first | exact ⟨failedStart, ht⟩ | cases hclosing

theorem closing_of_within (hclosing : closing m.gate = true) (hw : Within h m) :
    ∃ failedStart, m.gated = (h.stopBase failedStart).flagged.dropped := by
  unfold Within at hw
  cases hgate : m.gate <;> rw [hgate] at hclosing hw <;> first | exact hw | cases hclosing

/-- A section that ends with the gate free. -/
theorem within_free (op : GateSection) (hfree : t.gate = .free) (ht : t.gated = (h.apply op).gated) :
    ∃ sections : List GateSection, Within (sections.foldl apply h) t := by
  refine ⟨[op], ?_⟩
  simp only [Within, hfree]
  exact ht

theorem within_of_ends (failedStart : Option Bool) (ht : Ends (h.stopBase failedStart).flagged.dropped t) :
    ∃ sections : List GateSection, Within (sections.foldl apply h) t := by
  rcases ht with ⟨hclosing, ht⟩ | ⟨hfree, ht⟩
  · exact ⟨[], within_of_closing hclosing ht⟩
  · exact within_free (.stops failedStart .completed) hfree (ht.trans (HelperProcessManager.stops_completed h failedStart).symm)

/-! ## One step -/

/-- The handler that holds the gate has read the flag as it is. -/
def ReadsFlag (m : ProcessLifecycle) : Prop :=
  ∀ n, m.gate = .handling n → ∃ launch, m.launches[n]? = some launch ∧ launch.phase = .inside m.intentionalStop

theorem readsFlag_step (hr : m.ReadsFlag) (hmoves : m.Moves t l) : t.ReadsFlag := by
  intro n hn
  rcases hmoves.handling hn with ⟨hold, -, hflag, k, launch, phase, hk, hne, hlaunches⟩ |
    ⟨now, c, launch, -, -, -, -, -, hflag, hlaunch⟩
  · obtain ⟨old, hinside, hphase⟩ := hr n hold
    obtain ⟨new, hnew, -, hmoved⟩ := set_kept phase hk hinside
    refine ⟨new, hlaunches ▸ hnew, ?_⟩
    rcases hmoved with ⟨rfl, -⟩ | ⟨-, h⟩
    · obtain rfl : launch = old := Option.some.inj (hk.symm.trans hinside)
      exact absurd hphase (hne _)
    · rw [h, hphase, hflag]
  · exact ⟨_, hlaunch, by rw [hflag]⟩

theorem within_congr (hw : Within h m) (hgate : t.gate = m.gate) (hgated : t.gated = m.gated) : Within h t := by
  unfold Within at hw ⊢
  rw [hgate, hgated]
  exact hw

theorem gated_client (hclient : m.client = none) : m.gated.client = none := by simp [gated, hclient]

theorem within_ensure (hw : Within h m) (ht : m.step .ensure = some t) :
    ∃ sections : List GateSection, Within (sections.foldl apply h) t := by
  simp only [step] at ht
  split at ht
  · cases ht
    exact ⟨[], within_congr hw rfl rfl⟩
  · rename_i hgate hclient
    cases ht
    simp only [Within, hgate] at hw
    have hnone : h.gated.client = none := hw ▸ gated_client hclient
    exact ⟨[], hw, hnone⟩
  · cases ht

theorem within_stop (hgate : m.gate = .free) (hw : Within h m) :
    ∃ sections : List GateSection, Within (sections.foldl apply h) m.stopCore := by
  simp only [Within, hgate] at hw
  cases hclient : m.client with
  | some c =>
    have hreq : m.stopCore = { m with
        intentionalStop := true
        stopped := m.stopped ++ m.current.toList
        gate := .requesting } := by
      simp [stopCore, hclient]
    rw [hreq]
    exact ⟨[], congrArg Gated.flagged hw⟩
  | none =>
    have hends : Ends m.gated.flagged m.stopCore := stopCore_ends hclient
    rw [← Gated.dropped_of_none (show m.gated.flagged.client = none from gated_client hclient), hw] at hends
    exact within_of_ends none hends

/-- A start that fails, before the generation is issued or behind it. -/
theorem within_startFails {u : ProcessLifecycle} (issued : Bool) (hclient : u.client = none)
    (hu : u.gated.flagged = (h.stopBase (some issued)).flagged) :
    ∃ sections : List GateSection, Within (sections.foldl apply h) u.stopCore := by
  have hends : Ends u.gated.flagged u.stopCore := stopCore_ends hclient
  rw [← Gated.dropped_of_none (show u.gated.flagged.client = none from gated_client hclient), hu] at hends
  exact within_of_ends (some issued) hends

theorem within_proceed (hm : m.Coherent) (hw : Within h m) (ht : m.step .proceed = some t) :
    ∃ sections : List GateSection, Within (sections.foldl apply h) t := by
  simp only [step] at ht
  split at ht
  case h_1 hgate =>
    cases ht
    simp only [Within, hgate] at hw
    have hclient : m.client = none := hm.idle (.inl hgate)
    have hgated : m.launch.gated = m.gated.launched := by simp [gated, launch, Gated.launched, hclient]
    exact ⟨[], by rw [hgated, hw.1]; rfl, hw.2⟩
  case h_2 n hgate =>
    cases ht
    simp only [Within, hgate] at hw
    obtain ⟨-, -, -, -, launch, hn, hgeneration, -⟩ := hm.connecting n hgate
    refine within_free .ensureStarted rfl ?_
    have hissued : m.generation = h.generation + 1 := congrArg Gated.generation hw.1
    have hensure : (h.apply .ensureStarted).gated = { h.gated.launched with client := some (h.generation + 1) } := by
      simp only [HelperProcessManager.apply, HelperProcessManager.ensureStarted, hw.2]
      rfl
    rw [hensure, ← hw.1, ← hissued]
    simp [gated, hn, hgeneration]
  case h_3 hgate =>
    cases ht
    simp only [Within, hgate] at hw
    exact ⟨[], hw⟩
  case h_4 hgate =>
    cases ht
    simp only [Within, hgate] at hw
    have hends : Ends m.gated.dropped ({ m with client := none } : ProcessLifecycle).stopTask := stopTask_ends _
    rw [hw] at hends
    exact within_of_ends none hends
  case h_5 hgate =>
    cases ht
    obtain ⟨failedStart, hw⟩ := closing_of_within (by rw [hgate]; rfl) hw
    exact ⟨[], within_of_closing rfl hw⟩
  case h_6 hgate =>
    cases ht
    obtain ⟨failedStart, hw⟩ := closing_of_within (by rw [hgate]; rfl) hw
    exact ⟨[], within_of_closing rfl hw⟩
  case h_7 hgate =>
    cases ht
    obtain ⟨failedStart, hw⟩ := closing_of_within (by rw [hgate]; rfl) hw
    have hends : Ends m.gated ({ m with processTask := none } : ProcessLifecycle).stopEndpoint := stopEndpoint_ends _
    exact within_of_ends failedStart (hw ▸ hends)
  case h_8 hgate =>
    cases ht
    obtain ⟨failedStart, hw⟩ := closing_of_within (by rw [hgate]; rfl) hw
    have hends : Ends m.gated ({ m with endpoint := false } : ProcessLifecycle).stopEnds := .inr ⟨rfl, rfl⟩
    exact within_of_ends failedStart (hw ▸ hends)
  all_goals cases ht

/-- An exception behind the client ends the stop there. -/
theorem within_closing_throws (hclosing : closing m.gate = true) (hw : Within h m) :
    ∃ sections : List GateSection, Within (sections.foldl apply h) { m with gate := .free } := by
  obtain ⟨failedStart, hw⟩ := closing_of_within hclosing hw
  exact within_free (.stops failedStart .clientGone) rfl (hw.trans (HelperProcessManager.stops_clientGone h _).symm)

theorem within_throws (hm : m.Coherent) (hw : Within h m) (ht : m.step .throws = some t) :
    ∃ sections : List GateSection, Within (sections.foldl apply h) t := by
  simp only [step] at ht
  split at ht
  case h_1 hgate =>
    cases ht
    simp only [Within, hgate] at hw
    exact within_startFails false (hm.idle (.inl hgate)) (congrArg Gated.flagged hw.1)
  case h_2 n hgate =>
    cases ht
    simp only [Within, hgate] at hw
    exact within_startFails true (hm.connecting n hgate).1 (congrArg Gated.flagged hw.1)
  case h_3 hgate =>
    cases ht
    simp only [Within, hgate] at hw
    exact within_free (.stops none .clientKept) rfl hw
  case h_4 hgate =>
    cases ht
    simp only [Within, hgate] at hw
    exact within_free (.stops none .clientKept) rfl hw
  case h_9 n hgate =>
    obtain ⟨launch, hn, ht⟩ := Option.bind_eq_some_iff.1 ht
    cases ht
    simp only [Within, hgate] at hw
    exact ⟨[], (release_gated .finished hn).trans hw⟩
  case h_10 => cases ht
  all_goals
    rename_i hgate
    cases ht
    exact within_closing_throws (by rw [hgate]; rfl) hw

theorem within_launchThrows (hm : m.Coherent) (issued : Bool) (hgate : m.gate = .resolving) (hw : Within h m) :
    ∃ sections : List GateSection, Within (sections.foldl apply h) (m.launchThrows issued).stopCore := by
  simp only [Within, hgate] at hw
  have hclient : m.client = none := hm.idle (.inl hgate)
  cases issued with
  | false => exact within_startFails false hclient (congrArg Gated.flagged hw.1)
  | true => exact within_startFails true hclient (congrArg (fun g => g.launched.flagged) hw.1)

theorem within_concludes {n : Nat} {launch : HelperLaunch} (now : Nat) (hn : m.launches[n]? = some launch)
    (hw : m.gated = h.gated) : ∃ sections : List GateSection,
      Within (sections.foldl apply h) (m.conclude n launch m.intentionalStop now) := by
  obtain ⟨-, -, hfree, -⟩ := conclude_spec m n launch m.intentionalStop now
  refine within_free (.processEnded h.generation now) hfree ?_
  rw [conclude_gated now hn, hw]
  exact (HelperProcessManager.onProcessEnded_gated h now).symm

theorem within_enters {n now : Nat} (hw : Within h m) (ht : m.step (.enters n now) = some t) :
    ∃ sections : List GateSection, Within (sections.foldl apply h) t := by
  simp only [step, Option.bind_eq_bind, Option.bind_eq_some_iff, Option.ite_none_right_eq_some, Option.some.injEq] at ht
  obtain ⟨launch, hn, ⟨-, hgate⟩, rfl⟩ := ht
  unfold enter
  split
  · exact ⟨[], within_congr hw rfl (gated_setPhase .finished hn)⟩
  · split
    · simp only [Within, hgate] at hw
      exact ⟨[], (gated_setPhase (.inside m.intentionalStop) hn).trans hw⟩
    · simp only [Within, hgate] at hw
      exact within_concludes now hn hw

theorem within_step (hm : m.Coherent) (hr : m.ReadsFlag) (hw : Within h m) (ht : m.step l = some t) :
    ∃ sections : List GateSection, Within (sections.foldl apply h) t := by
  cases l with
  | ensure => exact within_ensure hw ht
  | stop =>
    obtain ⟨hgate, ht⟩ := Option.ite_none_right_eq_some.1 ht
    cases ht
    exact within_stop hgate hw
  | proceed => exact within_proceed hm hw ht
  | timesOut =>
    simp only [step] at ht
    split at ht
    · rename_i hgate
      cases ht
      obtain ⟨failedStart, hw⟩ := closing_of_within (by rw [hgate]; rfl) hw
      refine ⟨[], within_of_closing ?_ hw⟩
      cases m.processCancellation <;> rfl
    · cases ht
  | throws => exact within_throws hm hw ht
  | launchThrows issued =>
    obtain ⟨hgate, ht⟩ := Option.ite_none_right_eq_some.1 ht
    cases ht
    exact within_launchThrows hm issued hgate hw
  | exits n | neverRuns n | reads n =>
    simp only [step, Option.bind_eq_bind, Option.bind_eq_some_iff, Option.ite_none_right_eq_some, Option.some.injEq] at ht
    obtain ⟨launch, hn, -, rfl⟩ := ht
    exact ⟨[], within_congr hw rfl (gated_setPhase _ hn)⟩
  | enters n now => exact within_enters hw ht
  | handled now =>
    simp only [step] at ht
    split at ht
    · rename_i n hgate
      obtain ⟨launch, hn, ht⟩ := Option.bind_eq_some_iff.1 ht
      split at ht
      · rename_i intentional hinside
        cases ht
        obtain ⟨old, hold, hflag⟩ := hr n hgate
        obtain rfl : launch = old := Option.some.inj (hn.symm.trans hold)
        obtain rfl : m.intentionalStop = intentional := by
          rw [hflag] at hinside
          cases hinside
          rfl
        simp only [Within, hgate] at hw
        exact within_concludes now hn hw
      · cases ht
    · cases ht
  | raises n =>
    simp only [step, Option.bind_eq_bind, Option.bind_eq_some_iff] at ht
    obtain ⟨launch, hn, ht⟩ := ht
    split at ht
    · cases ht
      exact ⟨[], within_congr hw rfl (gated_setPhase .finished hn)⟩
    · cases ht

/-! ## Runs -/

/-- **Every run is one of the functions, one after the other**: what the gate protects is where the holder of the gate
has got to in its function, and what the functions have left once the gate is free. -/
theorem run_is_sections {labels : List LifecycleLabel} (hrun : Run.run step init labels = some m) :
    ∃ sections : List GateSection, Within (sections.foldl apply HelperProcessManager.init) m ∧
      (m.gate = .free → m.gated = (sections.foldl apply HelperProcessManager.init).gated) := by
  have hstart : Within HelperProcessManager.init init := by
    show init.gated = HelperProcessManager.init.gated
    rfl
  have hsim : ∃ sections : List GateSection, (m.Coherent ∧ m.ReadsFlag) ∧
      Within (sections.foldl apply HelperProcessManager.init) m := by
    refine Run.simulates apply (fun (m : ProcessLifecycle) h => (m.Coherent ∧ m.ReadsFlag) ∧ Within h m)
      (fun m h l t hw (_ : True) ht => ?_) ⟨⟨coherent_init, fun n hn => by cases hn⟩, hstart⟩
      (Run.along_of_forall (fun _ _ => trivial) init labels) hrun
    obtain ⟨⟨hm, hr⟩, hw⟩ := hw
    obtain ⟨sections, hsections⟩ := within_step hm hr hw ht
    exact ⟨sections, ⟨coherent_step hm (step_moves ht), readsFlag_step hr (step_moves ht)⟩, hsections⟩
  obtain ⟨sections, -, hw⟩ := hsim
  refine ⟨sections, hw, fun hfree => ?_⟩
  simp only [Within, hfree] at hw
  exact hw

end ProcessLifecycle

end Terracotta
