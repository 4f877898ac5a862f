import Terracotta.StaleClient
import Terracotta.OwnedField
/-!
# What a manager holds of the system (`HelperProcessManager.cs`, `LocalIpcEndpoint.cs`)

A launch makes the directory of an endpoint, a cancellation source and a task, and a connection makes a client.  Each has a
field, which is cleared only behind the disposal of what it holds.  `StopCoreAsync` clears all four; an exit handler clears
the client alone, and the next launch stores over what it left.
-/
namespace Terracotta

open Run (run Along Always)

inductive HelperResource
  | endpoint
  | cancellation
  | registration
  | client
deriving DecidableEq

namespace ProcessLifecycle

variable {m t : ProcessLifecycle} {l : LifecycleLabel}

def holds (m : ProcessLifecycle) : HelperResource → Bool
  | .endpoint => m.endpoint
  | .cancellation => m.processCancellation
  | .registration => m.processTask.isSome
  | .client => m.client.isSome

/-- What a step assigns, by the one who holds the gate. -/
def makes : GateHolder → LifecycleLabel → List HelperResource
  | .resolving, .proceed => [.endpoint, .cancellation, .registration]
  | .resolving, .launchThrows issued => if issued then [.endpoint, .cancellation] else [.endpoint]
  | .connecting _, .proceed => [.client]
  | _, _ => []

end ProcessLifecycle

/-- The manager, with what each of its fields has owned. -/
structure HelperHoldings where
  manager : ProcessLifecycle
  fields : HelperResource → OwnedField

inductive HoldingLabel
  | manager (l : LifecycleLabel)
  -- `LocalIpcEndpoint.Create` throws behind `Directory.CreateDirectory`
  | createThrows
deriving DecidableEq

namespace HelperHoldings

def start : HelperHoldings := ⟨.init, fun _ => .empty⟩

def step (s : HelperHoldings) : HoldingLabel → Option HelperHoldings
  | .manager l => (s.manager.step l).map fun manager =>
    ⟨manager, fun r => (s.fields r).settle (decide (r ∈ ProcessLifecycle.makes s.manager.gate l)) (manager.holds r)⟩
  | .createThrows =>
    if s.manager.gate = .resolving then
      (s.manager.step .throws).map fun manager =>
        ⟨manager, fun r => (if r = .endpoint then (s.fields r).make else s.fields r).settle false (manager.holds r)⟩
    else none

/-- **Nothing is left behind**: what is not disposed can still be. -/
def Tidy (s : HelperHoldings) : Prop := ∀ r, (s.fields r).Tidy

/-- A launch finds no endpoint, and can set the mode of the directory it makes. -/
def Fresh (s : HelperHoldings) : HoldingLabel → Prop
  | .manager l => .endpoint ∈ ProcessLifecycle.makes s.manager.gate l → s.manager.endpoint = false
  | .createThrows => s.manager.gate ≠ .resolving

instance (s : HelperHoldings) : ∀ l, Decidable (s.Fresh l)
  | .manager l =>
    inferInstanceAs (Decidable (.endpoint ∈ ProcessLifecycle.makes s.manager.gate l → s.manager.endpoint = false))
  | .createThrows => inferInstanceAs (Decidable (s.manager.gate ≠ .resolving))

end HelperHoldings

/-! ## What a step does to the fields -/

namespace ProcessLifecycle

variable {m t u : ProcessLifecycle} {l : LifecycleLabel}

/-- `StopCoreAsync` up to an await behind the client, or up to its end. -/
structure Stops (u t : ProcessLifecycle) : Prop where
  registration : t.processTask = u.processTask
  endpoint : t.endpoint = u.endpoint
  client : t.client = u.client
  cancellation : t.processCancellation = u.processCancellation ∧ t.gate ≠ .disposingEndpoint ∨
    u.processTask = none ∧ t.processCancellation = false

theorem stopEndpoint_stops (u : ProcessLifecycle) (h : u.processTask = none) : Stops u u.stopEndpoint := by
  unfold stopEndpoint
  simp only
  split <;> exact ⟨rfl, rfl, rfl, .inr ⟨h, rfl⟩⟩

theorem stopTask_stops (u : ProcessLifecycle) : Stops u u.stopTask := by
  unfold stopTask
  split
  · exact ⟨rfl, rfl, rfl, .inl ⟨rfl, GateHolder.noConfusion⟩⟩
  · rename_i h
    exact stopEndpoint_stops u h

theorem stopCore_stops (u : ProcessLifecycle) : Stops u u.stopCore := by
  unfold stopCore
  simp only
  split
  · exact ⟨rfl, rfl, rfl, .inl ⟨rfl, GateHolder.noConfusion⟩⟩
  · obtain ⟨hregistration, hendpoint, hclient, hcancellation⟩ :=
      stopTask_stops { u with intentionalStop := true, stopped := u.stopped ++ u.current.toList }
    exact ⟨hregistration, hendpoint, hclient, hcancellation⟩

/-- **What a step can do to the fields.** -/
inductive FieldsMove (m t : ProcessLifecycle) (l : LifecycleLabel) : Prop
  | same (hregistration : t.processTask = m.processTask) (hcancellation : t.processCancellation = m.processCancellation)
      (hendpoint : t.endpoint = m.endpoint) (hclient : t.client = m.client ∨ t.client = none)
      (hgate : t.gate = .disposingEndpoint → m.gate = .disposingEndpoint)
  | launches (hl : l = .proceed) (hgate : m.gate = .resolving) (ht : t = m.launch)
  | connects (n : Nat) (hl : l = .proceed) (hgate : m.gate = .connecting n)
      (ht : t = { m with client := some n, handedOut := m.handedOut ++ [n], gate := .free })
  | throws (issued : Bool) (hl : l = .launchThrows issued) (hgate : m.gate = .resolving) (ht : Stops (m.launchThrows issued) t)
  | stops (u : ProcessLifecycle) (hu : u = m ∨ u = { m with client := none } ∨ u = { m with processTask := none })
      (ht : Stops u t)
  | ends (hgate : m.gate = .disposingEndpoint) (ht : t = { m with endpoint := false }.stopEnds)

theorem same_setPhase (n : Nat) (launch : HelperLaunch) (phase : TaskPhase) : FieldsMove m (m.setPhase n launch phase) l :=
  .same rfl rfl rfl (.inl rfl) id

theorem same_free (h : t = { m with gate := .free }) : FieldsMove m t l := by
  subst h
  exact .same rfl rfl rfl (.inl rfl) GateHolder.noConfusion

theorem countCrash_fields (m : ProcessLifecycle) (now : Nat) : (m.countCrash now).processTask = m.processTask ∧
    (m.countCrash now).processCancellation = m.processCancellation ∧ (m.countCrash now).endpoint = m.endpoint ∧
      (m.countCrash now).client = m.client := by
  unfold countCrash
  simp only
  split <;> exact ⟨rfl, rfl, rfl, rfl⟩

theorem conclude_fields (m : ProcessLifecycle) (n : Nat) (launch : HelperLaunch) (intentional : Bool) (now : Nat) :
    FieldsMove m (m.conclude n launch intentional now) l := by
  unfold conclude
  cases intentional with
  | true => exact .same rfl rfl rfl (.inr rfl) GateHolder.noConfusion
  | false =>
    obtain ⟨hregistration, hcancellation, hendpoint, hclient⟩ :=
      countCrash_fields { m with client := none, cleared := m.cleared ++ m.client.toList.map (n, ·) } now
    exact .same hregistration hcancellation hendpoint (.inr hclient) GateHolder.noConfusion

theorem proceed_fields (h : m.step .proceed = some t) : FieldsMove m t .proceed := by
  simp only [step] at h
  split at h
  case h_1 hgate =>
    cases h
    exact .launches rfl hgate rfl
  case h_2 n hgate =>
    cases h
    exact .connects n rfl hgate rfl
  case h_4 hgate =>
    cases h
    exact .stops _ (.inr (.inl rfl)) (stopTask_stops _)
  case h_7 hgate =>
    cases h
    exact .stops _ (.inr (.inr rfl)) (stopEndpoint_stops _ rfl)
  case h_8 hgate =>
    cases h
    exact .ends hgate rfl
  case h_3 | h_5 | h_6 =>
    cases h
    exact .same rfl rfl rfl (.inl rfl) GateHolder.noConfusion
  all_goals cases h

theorem throws_fields (h : m.step .throws = some t) : FieldsMove m t .throws := by
  simp only [step] at h
  split at h
  case h_1 | h_2 =>
    cases h
    exact .stops m (.inl rfl) (stopCore_stops m)
  case h_9 n hgate =>
    obtain ⟨launch, -, h⟩ := Option.bind_eq_some_iff.1 h
    cases h
    exact .same rfl rfl rfl (.inl rfl) GateHolder.noConfusion
  case h_10 => cases h
  all_goals exact same_free (Option.some.inj h).symm

theorem step_fields (h : m.step l = some t) : FieldsMove m t l := by
  cases l with
  | ensure =>
    simp only [step] at h
    split at h
    · cases h
      exact .same rfl rfl rfl (.inl rfl) id
    · cases h
      exact .same rfl rfl rfl (.inl rfl) GateHolder.noConfusion
    · cases h
  | stop =>
    simp only [step, Option.ite_none_right_eq_some, Option.some.injEq] at h
    obtain ⟨-, rfl⟩ := h
    exact .stops m (.inl rfl) (stopCore_stops m)
  | proceed => exact proceed_fields h
  | timesOut =>
    simp only [step] at h
    split at h
    · cases h
      refine .same rfl rfl rfl (.inl rfl) fun hgate => ?_
      simp only at hgate
      split at hgate <;> cases hgate
    · cases h
  | throws => exact throws_fields h
  | launchThrows issued =>
    simp only [step, Option.ite_none_right_eq_some, Option.some.injEq] at h
    obtain ⟨hgate, rfl⟩ := h
    exact .throws issued rfl hgate (stopCore_stops _)
  | exits n | neverRuns n | reads n =>
    simp only [step, Option.bind_eq_bind, Option.bind_eq_some_iff, Option.ite_none_right_eq_some, Option.some.injEq] at h
    obtain ⟨launch, -, -, rfl⟩ := h
    exact same_setPhase n launch _
  | enters n now =>
    simp only [step, Option.bind_eq_bind, Option.bind_eq_some_iff, Option.ite_none_right_eq_some, Option.some.injEq] at h
    obtain ⟨launch, -, -, rfl⟩ := h
    unfold enter
    split
    · exact same_setPhase n launch _
    · split
      · exact .same rfl rfl rfl (.inl rfl) GateHolder.noConfusion
      · exact conclude_fields m n launch m.intentionalStop now
  | handled now =>
    simp only [step] at h
    split at h
    · rename_i n hgate
      obtain ⟨launch, -, h⟩ := Option.bind_eq_some_iff.1 h
      split at h
      · cases h
        exact conclude_fields m n launch _ now
      · cases h
    · cases h
  | raises n =>
    simp only [step, Option.bind_eq_bind, Option.bind_eq_some_iff] at h
    obtain ⟨launch, -, h⟩ := h
    split at h
    · cases h
      exact .same rfl rfl rfl (.inl rfl) id
    · cases h

/-- **The fields are filled in their order, and cleared in the opposite one.** -/
structure Nested (m : ProcessLifecycle) : Prop where
  registration : m.processTask ≠ none → m.processCancellation = true
  cancellation : m.processCancellation = true → m.endpoint = true
  last : m.gate = .disposingEndpoint → m.processTask = none ∧ m.processCancellation = false

theorem nested_init : init.Nested :=
  ⟨fun h => absurd rfl h, fun h => Bool.noConfusion h, fun h => GateHolder.noConfusion h⟩

theorem Stops.nested (h : Stops u t) (hregistration : u.processTask ≠ none → u.processCancellation = true)
    (hcancellation : u.processCancellation = true → u.endpoint = true) : t.Nested := by
  rcases h.cancellation with ⟨hsame, hgate⟩ | ⟨hnone, hfalse⟩
  · refine ⟨fun ht => ?_, fun ht => ?_, fun ht => absurd ht hgate⟩
    · rw [hsame]
      exact hregistration (h.registration ▸ ht)
    · rw [h.endpoint]
      exact hcancellation (hsame ▸ ht)
  · refine ⟨fun ht => absurd (h.registration.trans hnone) ht, fun ht => ?_, fun _ => ⟨h.registration.trans hnone, hfalse⟩⟩
    rw [hfalse] at ht
    cases ht

theorem nested_step (hn : m.Nested) (h : m.step l = some t) : t.Nested := by
  cases step_fields h with
  | same hregistration hcancellation hendpoint hclient hgate =>
    constructor
    · rw [hregistration, hcancellation]
      exact hn.registration
    · rw [hcancellation, hendpoint]
      exact hn.cancellation
    · rw [hregistration, hcancellation]
      exact fun ht => hn.last (hgate ht)
  | launches hl hgate ht =>
    subst ht
    exact ⟨fun _ => rfl, fun _ => rfl, fun ht => GateHolder.noConfusion ht⟩
  | connects n hl hgate ht =>
    subst ht
    exact ⟨hn.registration, hn.cancellation, fun ht => GateHolder.noConfusion ht⟩
  | throws issued hl hgate ht =>
    cases issued with
    | true => exact ht.nested (fun _ => rfl) fun _ => rfl
    | false => exact ht.nested hn.registration fun _ => rfl
  | stops u hu ht =>
    rcases hu with rfl | rfl | rfl
    · exact ht.nested hn.registration hn.cancellation
    · exact ht.nested hn.registration hn.cancellation
    · exact ht.nested (fun h => absurd rfl h) hn.cancellation
  | ends hgate ht =>
    obtain ⟨hnone, hfalse⟩ := hn.last hgate
    subst ht
    refine ⟨fun ht => absurd hnone ht, fun ht => ?_, fun ht => GateHolder.noConfusion ht⟩
    exact absurd (hfalse.symm.trans ht) Bool.noConfusion

theorem Stops.holds (h : Stops u t) (r : HelperResource) (ht : t.holds r = true) : u.holds r = true := by
  cases r with
  | endpoint => exact h.endpoint.symm.trans ht
  | cancellation =>
    rcases h.cancellation with ⟨hsame, -⟩ | ⟨-, hfalse⟩
    · exact hsame.symm.trans ht
    · exact absurd (hfalse.symm.trans ht) Bool.noConfusion
  | registration => exact (congrArg Option.isSome h.registration).symm.trans ht
  | client => exact (congrArg Option.isSome h.client).symm.trans ht

/-- What a field has behind a step it had before, unless the step assigns it. -/
theorem step_holds (h : m.step l = some t) (r : HelperResource) (ht : t.holds r = true) :
    r ∈ makes m.gate l ∨ m.holds r = true := by
  cases step_fields h with
  | same hregistration hcancellation hendpoint hclient hgate =>
    refine .inr ?_
    cases r with
    | endpoint => exact hendpoint.symm.trans ht
    | cancellation => exact hcancellation.symm.trans ht
    | registration => exact (congrArg Option.isSome hregistration).symm.trans ht
    | client =>
      rcases hclient with hsame | hnone
      · exact (congrArg Option.isSome hsame).symm.trans ht
      · exact absurd ((congrArg Option.isSome hnone).symm.trans ht) Bool.noConfusion
  | launches hl hgate hlaunch =>
    subst hl hlaunch
    rw [hgate]
    cases r with
    | client => exact .inr ht
    | _ => exact .inl (by decide)
  | connects n hl hgate hconnects =>
    subst hl hconnects
    rw [hgate]
    cases r with
    | client => exact .inl (List.mem_singleton_self _)
    | _ => exact .inr ht
  | throws issued hl hgate hstops =>
    subst hl
    rw [hgate]
    have hu := hstops.holds r ht
    cases issued <;> cases r <;> first | exact .inr hu | exact .inl (by decide)
  | stops u hu hstops =>
    have hu' := hstops.holds r ht
    refine .inr ?_
    rcases hu with rfl | rfl | rfl
    · exact hu'
    · cases r with
      | client => cases hu'
      | _ => exact hu'
    · cases r with
      | registration => cases hu'
      | _ => exact hu'
  | ends hgate hends =>
    subst hends
    refine .inr ?_
    cases r with
    | endpoint => cases ht
    | _ => exact ht

/-- Whoever makes something has found the endpoint as it was left, and no client. -/
theorem makes_client (hm : m.Coherent) {r : HelperResource} (h : r ∈ makes m.gate l) : m.client = none ∧
    (r ≠ .client → .endpoint ∈ makes m.gate l) := by
  unfold makes at h ⊢
  split at h
  case h_1 hgate => exact ⟨hm.idle (.inl hgate), fun _ => List.mem_cons_self⟩
  case h_2 issued hgate =>
    refine ⟨hm.idle (.inl hgate), fun _ => ?_⟩
    cases issued <;> exact List.mem_cons_self
  case h_3 n hgate => exact ⟨(hm.connecting n hgate).1, fun hne => absurd (List.mem_singleton.1 h) hne⟩
  case h_4 => cases h

/-- An endpoint is made where nothing can hold the step up. -/
theorem makes_endpoint (h : .endpoint ∈ makes m.gate l) : ∃ t, m.step l = some t := by
  unfold makes at h
  split at h
  case h_1 hgate => exact ⟨m.launch, by simp only [step, hgate]⟩
  case h_2 issued hgate => exact ⟨(m.launchThrows issued).stopCore, by simp only [step, hgate, if_pos]⟩
  case h_3 => cases List.mem_singleton.1 h
  case h_4 => cases h

/-! ### Behind a crash -/

/-- **Who has counted a crash still has the endpoint of its launch.** -/
structure CrashHeld (m : ProcessLifecycle) : Prop where
  counted : m.crashCount ≠ 0 → m.endpoint = true
  launched : m.intentionalStop = false → m.launches = [] ∨ m.endpoint = true
  stopping : m.gate = .requesting ∨ m.gate = .disposing ∨ closing m.gate = true → m.intentionalStop = true
  handling : ∀ n launch, m.gate = .handling n → m.launches[n]? = some launch → launch.phase = .inside false → m.endpoint = true

theorem crashHeld_init : init.CrashHeld :=
  ⟨fun h => absurd rfl h, fun _ => .inl rfl, fun h => by simp [init, closing] at h, fun n launch h => by cases h⟩

/-- The flag is up, and no handler has the gate. -/
theorem crashHeld_of_flag (hcounted : m.crashCount ≠ 0 → m.endpoint = true) (hflag : m.intentionalStop = true)
    (hgate : ∀ n, m.gate ≠ .handling n) : m.CrashHeld :=
  ⟨hcounted, fun h => absurd (hflag.symm.trans h) Bool.noConfusion, fun _ => hflag, fun n _ h => absurd h (hgate n)⟩

theorem crashHeld_stopEndpoint (hcounted : m.crashCount ≠ 0 → m.endpoint = true) (hflag : m.intentionalStop = true) :
    m.stopEndpoint.CrashHeld := by
  unfold stopEndpoint
  simp only
  split
  · exact crashHeld_of_flag hcounted hflag fun n => GateHolder.noConfusion
  · exact crashHeld_of_flag (fun h => absurd rfl h) hflag fun n => GateHolder.noConfusion

theorem crashHeld_stopTask (hcounted : m.crashCount ≠ 0 → m.endpoint = true) (hflag : m.intentionalStop = true) :
    m.stopTask.CrashHeld := by
  unfold stopTask
  split
  · exact crashHeld_of_flag hcounted hflag fun n => GateHolder.noConfusion
  · exact crashHeld_stopEndpoint hcounted hflag

theorem crashHeld_stopCore (hcounted : m.crashCount ≠ 0 → m.endpoint = true) : m.stopCore.CrashHeld := by
  unfold stopCore
  simp only
  split
  · exact crashHeld_of_flag hcounted rfl fun n => GateHolder.noConfusion
  · exact crashHeld_stopTask hcounted rfl

theorem CrashHeld.free (h : m.CrashHeld) (ht : t = { m with gate := .free }) : t.CrashHeld := by
  subst ht
  exact ⟨h.counted, h.launched, fun hgate => by simp [closing] at hgate, fun n launch hgate => GateHolder.noConfusion hgate⟩

/-- A task goes on, and not to the inside of the gate. -/
theorem CrashHeld.setPhase (h : m.CrashHeld) {n : Nat} {launch : HelperLaunch} {phase : TaskPhase}
    (hphase : phase ≠ .inside false) : (m.setPhase n launch phase).CrashHeld := by
  refine ⟨h.counted, fun hflag => (h.launched hflag).imp (fun hnil => ?_) id, h.stopping, fun k new hgate hk hnew => ?_⟩
  · show m.launches.set n { launch with phase } = []
    rw [hnil]
    rfl
  · rcases set_some hk with ⟨-, rfl⟩ | ⟨-, hk⟩
    · exact absurd hnew hphase
    · exact h.handling k new hgate hk hnew

theorem crashHeld_of_endpoint (hendpoint : m.endpoint = true) (hgate : m.gate = .free ∨ ∃ n, m.gate = .connecting n) :
    m.CrashHeld := by
  refine ⟨fun _ => hendpoint, fun _ => .inr hendpoint, fun h => ?_, fun _ _ _ _ _ => hendpoint⟩
  rcases hgate with hfree | ⟨n, hn⟩
  · simp [hfree, closing] at h
  · simp [hn, closing] at h

theorem crashHeld_conclude (hm : m.CrashHeld) {n : Nat} {launch : HelperLaunch} {intentional : Bool} (now : Nat)
    (hendpoint : intentional = false → m.endpoint = true) : (m.conclude n launch intentional now).CrashHeld := by
  unfold conclude
  cases intentional with
  | true =>
    have hset : (m.setPhase n launch .finished).CrashHeld := hm.setPhase TaskPhase.noConfusion
    exact ⟨hset.counted, hset.launched, (hset.free rfl).stopping, (hset.free rfl).handling⟩
  | false =>
    obtain ⟨-, -, hkept, -⟩ :=
      countCrash_fields { m with client := none, cleared := m.cleared ++ m.client.toList.map (n, ·) } now
    exact crashHeld_of_endpoint (hkept.trans (hendpoint rfl)) (.inl rfl)

theorem crashHeld_proceed (hm : m.CrashHeld) (h : m.step .proceed = some t) : t.CrashHeld := by
  simp only [step] at h
  split at h
  case h_1 hgate =>
    cases h
    exact crashHeld_of_endpoint rfl (.inr ⟨_, rfl⟩)
  case h_2 n hgate =>
    cases h
    exact ⟨hm.counted, hm.launched, fun h => by simp [closing] at h, fun n launch h => GateHolder.noConfusion h⟩
  case h_3 hgate =>
    cases h
    exact crashHeld_of_flag hm.counted (hm.stopping (.inl hgate)) fun n => GateHolder.noConfusion
  case h_4 hgate =>
    cases h
    exact crashHeld_stopTask hm.counted (hm.stopping (.inr (.inl hgate)))
  case h_5 hgate | h_6 hgate =>
    cases h
    exact crashHeld_of_flag hm.counted (hm.stopping (.inr (.inr (by rw [hgate]; rfl)))) fun n => GateHolder.noConfusion
  case h_7 hgate =>
    cases h
    exact crashHeld_stopEndpoint hm.counted (hm.stopping (.inr (.inr (by rw [hgate]; rfl))))
  case h_8 hgate =>
    cases h
    exact crashHeld_of_flag (fun h => absurd rfl h) (hm.stopping (.inr (.inr (by rw [hgate]; rfl))))
      fun n => GateHolder.noConfusion
  all_goals cases h

theorem crashHeld_throws (hm : m.CrashHeld) (h : m.step .throws = some t) : t.CrashHeld := by
  simp only [step] at h
  split at h
  case h_1 | h_2 =>
    cases h
    exact crashHeld_stopCore hm.counted
  case h_9 n hgate =>
    obtain ⟨launch, -, h⟩ := Option.bind_eq_some_iff.1 h
    cases h
    exact CrashHeld.free (hm.setPhase TaskPhase.noConfusion) rfl
  case h_10 => cases h
  all_goals exact hm.free (Option.some.inj h).symm

/-- The handler of a launch gets the gate while the flag is down: no stop has begun since the launch. -/
theorem crashHeld_enter (hm : m.CrashHeld) {n : Nat} {launch : HelperLaunch} (now : Nat) (hn : m.launches[n]? = some launch) :
    (m.enter n launch now).CrashHeld := by
  have hendpoint : m.intentionalStop = false → m.endpoint = true := by
    intro hflag
    refine (hm.launched hflag).resolve_left fun hnil => ?_
    rw [hnil] at hn
    cases hn
  unfold enter
  split
  · exact hm.setPhase TaskPhase.noConfusion
  · split
    · refine ⟨hm.counted, fun hflag => .inr (hendpoint hflag), fun h => by simp [closing] at h, fun k new hgate hk hnew => ?_⟩
      cases hgate
      have hinside : new.phase = .inside m.intentionalStop := by
        simp only [ProcessLifecycle.setPhase] at hk
        rw [List.getElem?_set_self', hn] at hk
        cases hk
        rfl
      exact hendpoint (TaskPhase.inside.inj (hinside.symm.trans hnew))
    · exact crashHeld_conclude hm now hendpoint

theorem crashHeld_step (hm : m.CrashHeld) (h : m.step l = some t) : t.CrashHeld := by
  cases l with
  | ensure =>
    simp only [step] at h
    split at h
    · cases h
      exact ⟨hm.counted, hm.launched, hm.stopping, hm.handling⟩
    · cases h
      exact ⟨hm.counted, hm.launched, fun h => by simp [closing] at h, fun n launch h => GateHolder.noConfusion h⟩
    · cases h
  | stop =>
    simp only [step, Option.ite_none_right_eq_some, Option.some.injEq] at h
    obtain ⟨-, rfl⟩ := h
    exact crashHeld_stopCore hm.counted
  | proceed => exact crashHeld_proceed hm h
  | timesOut =>
    simp only [step] at h
    split at h
    · rename_i hgate
      cases h
      refine crashHeld_of_flag hm.counted (hm.stopping (.inr (.inr (by rw [hgate]; rfl)))) fun n => ?_
      simp only
      split <;> exact GateHolder.noConfusion
    · cases h
  | throws => exact crashHeld_throws hm h
  | launchThrows issued =>
    simp only [step, Option.ite_none_right_eq_some, Option.some.injEq] at h
    obtain ⟨-, rfl⟩ := h
    refine crashHeld_stopCore fun _ => ?_
    cases issued <;> rfl
  | exits n | neverRuns n =>
    simp only [step, Option.bind_eq_bind, Option.bind_eq_some_iff, Option.ite_none_right_eq_some, Option.some.injEq] at h
    obtain ⟨launch, -, -, rfl⟩ := h
    exact hm.setPhase TaskPhase.noConfusion
  | reads n =>
    simp only [step, Option.bind_eq_bind, Option.bind_eq_some_iff, Option.ite_none_right_eq_some, Option.some.injEq] at h
    obtain ⟨launch, -, -, rfl⟩ := h
    refine hm.setPhase ?_
    split <;> exact TaskPhase.noConfusion
  | enters n now =>
    simp only [step, Option.bind_eq_bind, Option.bind_eq_some_iff, Option.ite_none_right_eq_some, Option.some.injEq] at h
    obtain ⟨launch, hn, -, rfl⟩ := h
    exact crashHeld_enter hm now hn
  | handled now =>
    simp only [step] at h
    split at h
    · rename_i n hgate
      obtain ⟨launch, hn, h⟩ := Option.bind_eq_some_iff.1 h
      split at h
      · rename_i intentional hinside
        cases h
        refine crashHeld_conclude hm now fun hfalse => hm.handling n launch hgate hn ?_
        rw [hinside, hfalse]
      · cases h
    · cases h
  | raises n =>
    simp only [step, Option.bind_eq_bind, Option.bind_eq_some_iff] at h
    obtain ⟨launch, -, h⟩ := h
    split at h
    · cases h
      have hset : (m.setPhase n launch .finished).CrashHeld := hm.setPhase TaskPhase.noConfusion
      exact ⟨hset.counted, hset.launched, hset.stopping, hset.handling⟩
    · cases h

end ProcessLifecycle

/-! ## Runs -/

namespace HelperHoldings

open ProcessLifecycle (makes)

variable {s t : HelperHoldings} {l : HoldingLabel}

/-- **The invariant of every run.** -/
structure Kept (s : HelperHoldings) : Prop where
  coherent : s.manager.Coherent
  nested : s.manager.Nested
  crashHeld : s.manager.CrashHeld
  fields : ∀ r, (s.fields r).Kept
  -- a field is null in the source where the manager holds nothing
  linked : ∀ r, (s.fields r).stored.isSome = s.manager.holds r

theorem kept_start : start.Kept :=
  ⟨ProcessLifecycle.coherent_init, ProcessLifecycle.nested_init, ProcessLifecycle.crashHeld_init,
    fun _ => OwnedField.kept_empty, fun r => by cases r <;> rfl⟩

/-- A field, with a directory that was made for nothing. -/
def spoiled (s : HelperHoldings) (l : HoldingLabel) (r : HelperResource) : OwnedField :=
  if l = .createThrows ∧ r = .endpoint then (s.fields r).make else s.fields r

/-- **What a step does**, to the manager and to each field. -/
theorem step_settles (h : s.step l = some t) : ∃ l', s.manager.step l' = some t.manager ∧
    (l = .manager l' ∨ l = .createThrows ∧ s.manager.gate = .resolving ∧ l' = .throws) ∧
    ∀ r, t.fields r = (s.spoiled l r).settle (decide (r ∈ makes s.manager.gate l')) (t.manager.holds r) := by
  cases l with
  | manager l =>
    obtain ⟨manager, hstep, rfl⟩ := Option.map_eq_some_iff.1 h
    refine ⟨l, hstep, .inl rfl, fun r => ?_⟩
    rw [spoiled, if_neg fun hl => HoldingLabel.noConfusion hl.1]
  | createThrows =>
    simp only [step, Option.ite_none_right_eq_some] at h
    obtain ⟨hgate, h⟩ := h
    obtain ⟨manager, hstep, rfl⟩ := Option.map_eq_some_iff.1 h
    refine ⟨.throws, hstep, .inr ⟨rfl, hgate, rfl⟩, fun r => ?_⟩
    rw [hgate]
    unfold spoiled
    by_cases hr : r = .endpoint
    · simp [hr, makes]
    · simp [hr, makes]

theorem spoiled_stored (s : HelperHoldings) (l : HoldingLabel) (r : HelperResource) :
    (s.spoiled l r).stored = (s.fields r).stored := by
  unfold spoiled
  split <;> rfl

theorem spoiled_kept (hk : s.Kept) (l : HoldingLabel) (r : HelperResource) : (s.spoiled l r).Kept := by
  unfold spoiled
  split
  · exact (hk.fields r).make
  · exact hk.fields r

theorem kept_step (hk : s.Kept) (h : s.step l = some t) : t.Kept := by
  obtain ⟨l', hstep, -, hfields⟩ := step_settles h
  refine ⟨ProcessLifecycle.coherent_step hk.coherent (ProcessLifecycle.step_moves hstep),
    ProcessLifecycle.nested_step hk.nested hstep, ProcessLifecycle.crashHeld_step hk.crashHeld hstep, fun r => ?_, fun r => ?_⟩
  · rw [hfields r]
    exact (spoiled_kept hk l r).settle _ _
  · rw [hfields r]
    refine OwnedField.settle_stored fun hholds => ?_
    rw [spoiled_stored, hk.linked r, decide_eq_true_iff]
    exact ProcessLifecycle.step_holds hstep r hholds

/-- What is abandoned stays so. -/
theorem abandoned_step (hk : s.Kept) {r : HelperResource} {n : Nat} (ha : (s.fields r).Abandoned n) (h : s.step l = some t) :
    (t.fields r).Abandoned n := by
  obtain ⟨l', -, -, hfields⟩ := step_settles h
  rw [hfields r]
  refine OwnedField.Abandoned.settle (spoiled_kept hk l r) ?_ _ _
  unfold spoiled
  split
  · exact ha.make
  · exact ha

/-- Without an endpoint a manager holds nothing that a launch makes. -/
theorem stored_eq_none (hk : s.Kept) (hendpoint : s.manager.endpoint = false) (r : HelperResource) :
    (s.fields r).stored = none := by
  rw [← Option.not_isSome_iff_eq_none, hk.linked r]
  have hcancellation : s.manager.processCancellation = false := by
    cases h : s.manager.processCancellation with
    | false => rfl
    | true => exact (hk.nested.cancellation h).symm.trans hendpoint
  intro hholds
  cases r with
  | endpoint => exact absurd (hendpoint.symm.trans hholds) Bool.noConfusion
  | cancellation => exact absurd (hcancellation.symm.trans hholds) Bool.noConfusion
  | registration =>
    have hset := hk.nested.registration (Option.isSome_iff_ne_none.1 hholds)
    exact absurd (hcancellation.symm.trans hset) Bool.noConfusion
  | client =>
    obtain ⟨c, hc⟩ := Option.isSome_iff_exists.1 hholds
    exact absurd (hcancellation.symm.trans (hk.coherent.stored c hc).2.1) Bool.noConfusion

/-- **A step leaves nothing behind exactly where it is fresh.** -/
theorem step_tidy_iff (s : HelperHoldings) (l : HoldingLabel) (hk : s.Kept) (ht : s.Tidy) :
    s.Fresh l ↔ ∀ t, s.step l = some t → t.Tidy := by
  constructor
  · intro hfresh t h r
    obtain ⟨l', hstep, hl, hfields⟩ := step_settles h
    obtain rfl : l = .manager l' := by
      rcases hl with hl | ⟨hthrows, hgate, -⟩
      · exact hl
      · rw [hthrows] at hfresh
        exact absurd hgate hfresh
    rw [hfields r, spoiled, if_neg fun hl => HoldingLabel.noConfusion hl.1,
      OwnedField.settle_tidy_iff (hk.fields r) (ht r), decide_eq_true_iff]
    intro hmakes
    obtain ⟨hclient, hendpoint⟩ := ProcessLifecycle.makes_client hk.coherent hmakes
    by_cases hr : r = .client
    · rw [hr, ← Option.not_isSome_iff_eq_none, hk.linked, ProcessLifecycle.holds, hclient]
      exact Bool.noConfusion
    · exact stored_eq_none hk (hfresh (hendpoint hr)) r
  · intro hall
    cases l with
    | manager l =>
      intro hmakes
      obtain ⟨manager, hstep⟩ := ProcessLifecycle.makes_endpoint hmakes
      have htidy := hall _ (by rw [step, hstep]; rfl) .endpoint
      have hstored := (OwnedField.settle_tidy_iff (hk.fields .endpoint) (ht .endpoint) _ _).1 htidy (decide_eq_true hmakes)
      have hlinked := hk.linked .endpoint
      rw [hstored] at hlinked
      exact hlinked.symm
    | createThrows =>
      intro hgate
      have hthrows : s.manager.step .throws = some s.manager.stopCore := by simp only [ProcessLifecycle.step, hgate]
      have htidy := hall _ (by rw [step, if_pos hgate, hthrows]; rfl) .endpoint
      simp only [if_pos, OwnedField.settle, Bool.false_eq_true, if_false] at htidy
      split at htidy
      · exact OwnedField.make_not_tidy (hk.fields .endpoint) htidy
      · exact OwnedField.make_release_not_tidy (hk.fields .endpoint) htidy

/-- **A manager leaves nothing behind exactly where each launch finds no endpoint**, and can set the mode of the directory
it makes: a directory, a source or a task that the next launch stores over is never disposed. -/
theorem nothing_is_left_behind_iff (labels : List HoldingLabel) :
    Always step Tidy start labels ↔ Along step Fresh start labels :=
  Run.always_iff_along_of Kept Tidy (fun _ _ _ hk => kept_step hk) (fun s l hk => step_tidy_iff s l hk) labels kept_start
    fun _ => rfl

/-- **A launch behind a crash leaves the endpoint of the crashed Helper for good**: while a crash is counted no stop has
run to its end, and nothing disposes the endpoint that the launch stores over. -/
theorem launch_behind_crash_leaves_endpoint (labels after : List HoldingLabel) (l : LifecycleLabel) (s t : HelperHoldings)
    (hrun : run step start labels = some s) (hlaunch : .endpoint ∈ makes s.manager.gate l)
    (hcrash : s.manager.crashCount ≠ 0) (hafter : run step s (.manager l :: after) = some t) :
    ∃ n, (s.fields .endpoint).stored = some n ∧ (t.fields .endpoint).Abandoned n := by
  have hk : s.Kept := Run.invariant_all Kept (fun _ _ _ hk => kept_step hk) kept_start hrun
  have hstored : (s.fields .endpoint).stored.isSome = true := (hk.linked .endpoint).trans (hk.crashHeld.counted hcrash)
  obtain ⟨n, hn⟩ := Option.isSome_iff_exists.1 hstored
  obtain ⟨u, hu, hrest⟩ := Run.run_cons hafter
  have hleft : (u.fields .endpoint).Abandoned n := by
    obtain ⟨manager, hstep, rfl⟩ := Option.map_eq_some_iff.1 hu
    simp only [decide_eq_true hlaunch]
    exact OwnedField.settle_abandons (hk.fields .endpoint) hn _
  have hboth : t.Kept ∧ (t.fields .endpoint).Abandoned n :=
    Run.invariant_all (fun s => s.Kept ∧ (s.fields .endpoint).Abandoned n)
      (fun _ _ _ h hstep => ⟨kept_step h.1 hstep, abandoned_step h.1 h.2 hstep⟩) ⟨kept_step hk hu, hleft⟩ hrest
  exact ⟨n, hn, hboth.2⟩

/-- A Helper is started, ends by itself, and its handler counts the crash; the manager is asked for a client. -/
def crashLabels : List HoldingLabel :=
  [.manager .ensure, .manager .proceed, .manager .proceed, .manager (.exits 0), .manager (.reads 0),
    .manager (.enters 0 200000000), .manager (.handled 200000000), .manager (.raises 0), .manager .ensure]

/-- The stop of the second Helper. -/
def stopLabels : List HoldingLabel :=
  [.manager .proceed, .manager .stop, .manager .proceed, .manager .proceed, .manager (.exits 1), .manager (.reads 1),
    .manager .proceed, .manager .proceed, .manager .proceed]

theorem stopped_manager_left_endpoint : ∃ s t, run step start crashLabels = some s ∧
    run step s (.manager .proceed :: stopLabels) = some t ∧ t.manager.gate = .free ∧ (t.fields .endpoint).Abandoned 0 := by
  obtain ⟨n, hn, ha⟩ := launch_behind_crash_leaves_endpoint crashLabels stopLabels .proceed _ _ rfl (by decide) (by decide) rfl
  cases hn
  exact ⟨_, _, rfl, rfl, rfl, ha⟩

end HelperHoldings

end Terracotta
