import Terracotta.Sections
import Terracotta.RoomSteps
/-!
# Room calls at the same time are calls in some order

Under `Orderly` schedules at most one call waits for its backend, and what happens while it waits is a refusal, or a poll
during a diagnosis.  So the calls so far are those of a serial run, up to the one that waits (`Serialises`): a call that
went through meanwhile belongs before it or behind it.  Without the condition a diagnosis undoes a leave.
-/
namespace Terracotta

/-! ## Serial runs -/

open ServiceCall

/-- The calls in this order, one after another, return these results and leave `svc'`. -/
def Serial (svc : RoomService) (order : List (ServiceCall × CallResult)) (svc' : RoomService) : Prop :=
  runSerial svc (order.map Prod.fst) = (svc', order.map Prod.snd)

theorem serial_snoc_run : ∀ {svc svc' : RoomService} {order : List (ServiceCall × CallResult)} (call : ServiceCall),
    Serial svc order svc' → Serial svc (order ++ [(call, (call.run svc').2)]) (call.run svc').1
  | svc, svc', [], call, h => by
    cases h
    rfl
  | svc, svc', (c, r) :: order, call, h => by
    simp only [Serial, runSerial, List.map_cons, Prod.mk.injEq, List.cons.injEq] at h
    obtain ⟨hs, hr, hrest⟩ := h
    have htail : Serial (c.run svc).1 order svc' := Prod.ext hs hrest
    have ih := serial_snoc_run call htail
    simp only [Serial] at ih
    simp only [Serial, List.cons_append, List.map_cons, runSerial, ih, hr]

theorem serial_snoc {svc svc' : RoomService} {order : List (ServiceCall × CallResult)} {call : ServiceCall}
    {state : RoomSnapshot} {result : CallResult} (h : Serial svc order svc')
    (heffect : (state, result) = call.effect svc'.state) :
    ∃ after, Serial svc (order ++ [(call, result)]) after ∧ after.state = state := by
  have hrun := run_effect svc' call
  rw [← heffect] at hrun
  obtain ⟨hstate, hresult⟩ := Prod.mk.inj hrun
  exact ⟨_, hresult ▸ serial_snoc_run call h, hstate⟩

/-- **Refusals can be appended.** -/
theorem serial_refused {svc : RoomService} : ∀ {post order : List (ServiceCall × CallResult)} {svc' : RoomService},
    Serial svc order svc' → (∀ x ∈ post, x.1.effect svc'.state = (svc'.state, x.2)) →
      ∃ after, Serial svc (order ++ post) after ∧ after.state = svc'.state
  | [], order, svc', h, _ => ⟨svc', by simpa using h, rfl⟩
  | x :: post, order, svc', h, hpost => by
    obtain ⟨after, hserial, hstate⟩ := serial_snoc h (hpost x List.mem_cons_self).symm
    have hrest : ∀ y ∈ post, y.1.effect after.state = (after.state, y.2) := by
      intro y hy
      rw [hstate]
      exact hpost y (List.mem_cons_of_mem _ hy)
    obtain ⟨last, hlast, hsame⟩ := serial_refused hserial hrest
    exact ⟨last, by simpa using hlast, hsame.trans hstate⟩

/-! ## The gap of a waiting call -/

/-- While one call waits for its backend: `base` is the snapshot it found, moved on by what has happened since, and `post`
are the calls that were refused meanwhile and belong behind it. -/
structure Gap (base state : RoomSnapshot) (call : ServiceCall) (pc : CallPc) (post : List (ServiceCall × CallResult)) :
    Prop where
  pending : state.state = call.pendingState
  admits : call.Admits base.state
  keeps : call.keepsRoom = true → state = { base with state := call.pendingState }
  previous : ∀ previous ∈ pc.previous, previous = base.state
  completes : call.Completes base pc
  ends : ∀ state : RoomSnapshot, call.Admits state.state → call.Ends (call.effect state).1.state
  post : ∀ x ∈ post, ∀ after : RoomSnapshot, call.Ends after.state → x.1.effect after = (after, x.2)

/-- **The last section of the waiting call does what the whole call does to `base`.** -/
theorem gap_finish {base state : RoomSnapshot} {call : ServiceCall} {pc : CallPc}
    {post : List (ServiceCall × CallResult)} (h : Gap base state call pc post) :
    call.finish state pc = call.effect base := by
  rw [← h.completes base h.admits h.previous (fun _ => ⟨rfl, rfl⟩)]
  by_cases hkeeps : call.keepsRoom = true
  · rw [h.keeps hkeeps]
    exact finish_state base _ call pc
  · exact finish_of_not_keepsRoom (Bool.eq_false_iff.2 hkeeps) pc state base

theorem gap_between {base state : RoomSnapshot} {call : ServiceCall} {pc pc' : CallPc}
    {post : List (ServiceCall × CallResult)} (h : Gap base state call pc post)
    (hprevious : ∀ previous ∈ pc'.previous, previous ∈ pc.previous) (hcompletes : call.Completes base pc') :
    Gap base state call pc' post :=
  { h with previous := fun p hp => h.previous p (hprevious p hp), completes := hcompletes }

theorem gap_post {base state : RoomSnapshot} {call : ServiceCall} {pc : CallPc} {post : List (ServiceCall × CallResult)}
    (h : Gap base state call pc post) {x : ServiceCall × CallResult}
    (hx : ∀ after : RoomSnapshot, call.Ends after.state → x.1.effect after = (after, x.2)) :
    Gap base state call pc (post ++ [x]) := by
  refine { h with post := fun y hy => ?_ }
  rcases List.mem_append.1 hy with hy | hy
  · exact h.post y hy
  · rw [List.mem_singleton.1 hy]
    exact hx

/-- What the service lets a call do while another one waits. -/
def Fair (state : RoomSnapshot) (previous : Option RoomState) : ServiceCall → Prop
  | .leave _ => state.state ≠ .creating ∧ state.state ≠ .joining ∧ state.state ≠ .diagnosing ∧ state.state ≠ .leaving
  | .diagnose _ _ => state.state ≠ .diagnosing
  | .pollAndEmit (.ok refresh) => state.state = .diagnosing → ∀ network ∈ refresh.network, ∀ found ∈ previous,
      (network.isHealthy = true ↔ found = .connected)
  | _ => True

/-- Where a call belongs that goes through while another one waits: before it, or behind it. -/
inductive Placed (base state : RoomSnapshot) (call : ServiceCall) (pc : CallPc) (post : List (ServiceCall × CallResult))
    (other : ServiceCall) : Prop where
  | before (base' : RoomSnapshot) (heffect : other.effect base = (base', (other.effect state).2))
      (hgap : Gap base' (other.effect state).1 call pc post)
  | behind (hstate : (other.effect state).1 = state)
      (hgap : Gap base state call pc (post ++ [(other, (other.effect state).2)]))

theorem placed_before {base state : RoomSnapshot} {call other : ServiceCall} {pc : CallPc}
    {post : List (ServiceCall × CallResult)} {result : CallResult} (h : Gap base state call pc post)
    (hbase : other.effect base = (base, result)) (hstate : other.effect state = (state, result)) :
    Placed base state call pc post other :=
  .before base (by rw [hbase, hstate]) (by rw [hstate]; exact h)

theorem placed_behind {base state : RoomSnapshot} {call other : ServiceCall} {pc : CallPc}
    {post : List (ServiceCall × CallResult)} {result : CallResult} (h : Gap base state call pc post)
    (hstate : other.effect state = (state, result))
    (hafter : ∀ after : RoomSnapshot, call.Ends after.state → other.effect after = (after, result)) :
    Placed base state call pc post other :=
  .behind (by rw [hstate]) (gap_post h (by rw [hstate]; exact hafter))

/-- While a create or a join waits, creates and joins belong behind it, the rest before it. -/
theorem placed_opening {base state : RoomSnapshot} {call other : ServiceCall} {pc : CallPc}
    {post : List (ServiceCall × CallResult)} (hcall : call.opens = true) (h : Gap base state call pc post)
    (hfair : Fair state pc.previous other) : Placed base state call pc post other := by
  have hbase : base.state = .idle := by cases call <;> first | exact h.admits | cases hcall
  have hstate : state.state = .creating ∨ state.state = .joining := by
    cases call <;> first | exact Or.inl h.pending | exact Or.inr h.pending | cases hcall
  have hidle : state.state ≠ .idle := by rcases hstate with hs | hs <;> rw [hs] <;> decide
  have hafter : ∀ after : RoomSnapshot, call.Ends after.state → after.state ≠ .idle := by
    intro after hends
    have hends : after.state = .connected ∨ after.state = .faulted := by
      cases call <;> first | exact hends | cases hcall
    rcases hends with hs | hs <;> rw [hs] <;> decide
  cases other with
  | create request answer =>
    obtain ⟨result, hrefused⟩ := opens_refused (.create request answer) rfl
    exact placed_behind h (hrefused state hidle) (fun after he => hrefused after (hafter after he))
  | join request answer =>
    obtain ⟨result, hrefused⟩ := opens_refused (.join request answer) rfl
    exact placed_behind h (hrefused state hidle) (fun after he => hrefused after (hafter after he))
  | diagnose refresh answer =>
    refine placed_before h (diagnose_refused refresh answer ?_) (diagnose_refused refresh answer ?_)
    · rw [hbase]; decide
    · rcases hstate with hs | hs <;> rw [hs] <;> decide
  | leave answer => rcases hstate with hs | hs <;> [exact absurd hs hfair.1; exact absurd hs hfair.2.1]
  | pollAndEmit refresh =>
    refine placed_before h (poll_refused refresh ?_) (poll_refused refresh ?_)
    · rw [hbase]; decide
    · rcases hstate with hs | hs <;> rw [hs] <;> decide

/-- While a leave waits, creates and joins belong before it, the rest behind it. -/
theorem placed_leaving {base state : RoomSnapshot} {answer : Except RoomError Unit} {other : ServiceCall} {pc : CallPc}
    {post : List (ServiceCall × CallResult)} (h : Gap base state (.leave answer) pc post)
    (hfair : Fair state pc.previous other) : Placed base state (.leave answer) pc post other := by
  have hstate : state.state = .leaving := h.pending
  have hidle : state.state ≠ .idle := by rw [hstate]; decide
  cases other with
  | create request answer =>
    obtain ⟨result, hrefused⟩ := opens_refused (.create request answer) rfl
    exact placed_before h (hrefused base h.admits.1) (hrefused state hidle)
  | join request answer =>
    obtain ⟨result, hrefused⟩ := opens_refused (.join request answer) rfl
    exact placed_before h (hrefused base h.admits.1) (hrefused state hidle)
  | diagnose refresh answer =>
    refine placed_behind h (diagnose_refused refresh answer ?_) (fun after he => diagnose_refused refresh answer ?_)
    · rw [hstate]; decide
    · rcases he with hs | hs <;> rw [hs] <;> decide
  | leave answer => exact absurd hstate hfair.2.2.2
  | pollAndEmit refresh =>
    refine placed_behind h (poll_refused refresh ?_) (fun after he => poll_refused refresh ?_)
    · rw [hstate]; decide
    · rcases he with hs | hs <;> rw [hs] <;> decide

theorem pollState_diagnosing (base : RoomSnapshot) (refresh : BackendRefresh)
    (hbase : base.state = .connected ∨ base.state = .reconnecting) :
    (pollState { base with state := .diagnosing } refresh).1 = { (pollState base refresh).1 with state := .diagnosing } := by
  unfold pollState
  cases refresh.network with
  | none => rfl
  | some network =>
    obtain ⟨-, state, heq⟩ := applyNetwork_frame base network hbase
    have hdiagnosing : (applyNetwork { base with state := .diagnosing } network).1 =
        { base with state := .diagnosing, network := some network } := by
      simp [applyNetwork]
    simp only [heq, hdiagnosing]

theorem pollState_room (base : RoomSnapshot) (refresh : BackendRefresh)
    (hbase : base.state = .connected ∨ base.state = .reconnecting) :
    ((pollState base refresh).1.state = .connected ∨ (pollState base refresh).1.state = .reconnecting) ∧
      (pollState base refresh).1.role = base.role ∧ (pollState base refresh).1.gameSessionId = base.gameSessionId := by
  unfold pollState
  cases refresh.network with
  | none => exact ⟨hbase, rfl, rfl⟩
  | some network =>
    obtain ⟨hstate, state, heq⟩ := applyNetwork_frame base network hbase
    simp only [heq] at hstate ⊢
    exact ⟨hstate, trivial, trivial⟩

/-- A network of the room's own health does not move the room. -/
theorem pollState_healthy {base : RoomSnapshot} {refresh : BackendRefresh}
    (hbase : base.state = .connected ∨ base.state = .reconnecting)
    (h : ∀ network ∈ refresh.network, (network.isHealthy = true ↔ base.state = .connected)) :
    (pollState base refresh).1.state = base.state := by
  unfold pollState
  cases hnetwork : refresh.network with
  | none => rfl
  | some network =>
    have hhealth := h network hnetwork
    rcases hbase with hs | hs
    · have hhealthy : network.isHealthy = true := hhealth.2 hs
      simp [applyNetwork, hs, hhealthy]
    · have hhealthy : network.isHealthy = false := by
        rw [← Bool.not_eq_true, hhealth, hs]
        decide
      simp [applyNetwork, hs, hhealthy]

/-- While a diagnosis waits, everything else belongs before it. -/
theorem placed_diagnosing {base state : RoomSnapshot} {refresh : Except RoomError BackendRefresh}
    {answer : Except RoomError NetworkStatus} {other : ServiceCall} {pc : CallPc}
    {post : List (ServiceCall × CallResult)} (h : Gap base state (.diagnose refresh answer) pc post)
    (hfair : Fair state pc.previous other) : Placed base state (.diagnose refresh answer) pc post other := by
  have hbase : base.state = .connected ∨ base.state = .reconnecting := h.admits
  have hstate : state.state = .diagnosing := h.pending
  have hidle : state.state ≠ .idle := by rw [hstate]; decide
  have hbase' : base.state ≠ .idle := by rcases hbase with hs | hs <;> rw [hs] <;> decide
  cases other with
  | create request answer =>
    obtain ⟨result, hrefused⟩ := opens_refused (.create request answer) rfl
    exact placed_before h (hrefused base hbase') (hrefused state hidle)
  | join request answer =>
    obtain ⟨result, hrefused⟩ := opens_refused (.join request answer) rfl
    exact placed_before h (hrefused base hbase') (hrefused state hidle)
  | diagnose refresh answer => exact absurd hstate hfair
  | leave answer => exact absurd hstate hfair.2.2.1
  | pollAndEmit polled =>
    cases polled with
    | error e => exact placed_before h rfl rfl
    | ok polled =>
      obtain ⟨hlive, hrole, hid⟩ := pollState_room base polled hbase
      have heffect : (ServiceCall.pollAndEmit (.ok polled)).effect state =
          ({ (pollState base polled).1 with state := .diagnosing }, .unit) := by
        simp only [effect]
        rw [if_pos (Or.inr (Or.inr hstate)), ← pollState_diagnosing base polled hbase, h.keeps rfl]
        rfl
      refine .before (pollState base polled).1 ?_ ?_
      · rw [heffect]
        simp only [effect]
        rw [if_pos (by rcases hbase with hs | hs <;> simp [hs])]
      · rw [heffect]
        refine ⟨rfl, hlive, fun _ => rfl, fun found hfound => ?_, ?_, h.ends, h.post⟩
        · have hbefore := h.previous found hfound
          subst hbefore
          exact (pollState_healthy hbase (fun network hn => hfair hstate network hn _ hfound)).symm
        · intro state' hadmits hp hsame
          refine h.completes state' hadmits hp (fun hk => ?_)
          obtain ⟨hr, hi⟩ := hsame hk
          exact ⟨hr.trans hrole, hi.trans hid⟩

/-- **A call that goes through while another one waits has its place** before or behind it. -/
theorem gap_other {base state : RoomSnapshot} {call other : ServiceCall} {pc : CallPc}
    {post : List (ServiceCall × CallResult)} (h : Gap base state call pc post) (hfair : Fair state pc.previous other) :
    Placed base state call pc post other := by
  cases call with
  | create _ _ | join _ _ => exact placed_opening rfl h hfair
  | diagnose _ _ => exact placed_diagnosing h hfair
  | leave _ => exact placed_leaving h hfair
  | pollAndEmit _ => exact absurd h.admits id

/-- **No second call gets to its backend while one waits.** -/
theorem gap_admits {base state : RoomSnapshot} {call other : ServiceCall} {pc : CallPc}
    {post : List (ServiceCall × CallResult)} (h : Gap base state call pc post) (hfair : Fair state pc.previous other) :
    ¬ other.Admits state.state := by
  have hpending : state.state = .creating ∨ state.state = .joining ∨ state.state = .diagnosing ∨
      state.state = .leaving := by
    have hp := h.pending
    cases call with
    | create _ _ => exact Or.inl hp
    | join _ _ => exact Or.inr (Or.inl hp)
    | diagnose _ _ => exact Or.inr (Or.inr (Or.inl hp))
    | leave _ => exact Or.inr (Or.inr (Or.inr hp))
    | pollAndEmit _ => exact absurd h.admits id
  intro hadmits
  cases other with
  | create _ _ | join _ _ =>
    have hadmits : state.state = .idle := hadmits
    rcases hpending with hs | hs | hs | hs <;> rw [hs] at hadmits <;> cases hadmits
  | diagnose _ _ =>
    have hadmits : state.state = .connected ∨ state.state = .reconnecting := hadmits
    rcases hpending with hs | hs | hs | hs <;> rw [hs] at hadmits <;> rcases hadmits with ha | ha <;> cases ha
  | leave _ =>
    obtain ⟨h1, h2, h3, h4⟩ := hfair
    rcases hpending with hs | hs | hs | hs
    · exact h1 hs
    · exact h2 hs
    · exact h3 hs
    · exact h4 hs
  | pollAndEmit _ => exact hadmits

/-! ## The shared service -/

namespace SharedService

/-- The calls that wait for their backend, or for the lock to store what came of it. -/
def held (threads : List (ServiceCall × CallPc)) : List (ServiceCall × CallPc) := threads.filter (fun x => x.2.held)

/-- The calls that are through with the stored snapshot, with what they return. -/
def committed (threads : List (ServiceCall × CallPc)) : List (ServiceCall × CallResult) :=
  threads.filterMap (fun x => x.2.result.map (fun result => (x.1, result)))

/-- **The condition**, at the first section of a call under the state lock: no leave finds another call waiting, no
diagnosis finds another one waiting, and no poll brings a diagnosis a network that contradicts the state it found. -/
def Orderly (s : SharedService) (i : Nat) : Prop :=
  match s.threads[i]? with
  | none => True
  | some (call, pc) => pc = call.entry → ∀ waiting ∈ s.threads, Fair s.service.state waiting.2.previous call

/-- **What has happened so far is a serial run**, up to the one call that waits. -/
def Serialises (svc : RoomService) (s : SharedService) : Prop :=
  ∃ order post base, Serial svc order base ∧ (order ++ post).Perm (committed s.threads) ∧
    ((held s.threads = [] ∧ post = [] ∧ s.service.state = base.state) ∨
      ∃ call pc, held s.threads = [(call, pc)] ∧ Gap base.state s.service.state call pc post)

theorem step_threads {s t : SharedService} {i : Nat} (h : step s i = some t) :
    ∃ l call pc r svc' pc', s.threads[i]? = some (call, pc) ∧ s.threads = l ++ (call, pc) :: r ∧
      Section s.service call pc svc' pc' ∧ t = ⟨svc', l ++ (call, pc') :: r⟩ := by
  unfold step at h
  split at h
  · cases h
  rename_i call pc hi
  obtain ⟨⟨svc', pc'⟩, hadvance, rfl⟩ := Option.map_eq_some_iff.1 h
  obtain ⟨hlt, hget⟩ := List.getElem?_eq_some_iff.1 hi
  refine ⟨s.threads.take i, call, pc, s.threads.drop (i + 1), svc', pc', hi, ?_, advance_section hadvance, ?_⟩
  · rw [← hget, ← List.drop_eq_getElem_cons hlt, List.take_append_drop]
  · show SharedService.mk svc' (s.threads.set i (call, pc')) = _
    rw [List.set_eq_take_append_cons_drop, if_pos hlt]

section

variable {l r : List (ServiceCall × CallPc)} {call : ServiceCall} {pc pc' : CallPc}

theorem committed_split : committed (l ++ (call, pc) :: r) =
    committed l ++ (pc.result.map (fun result => (call, result))).toList ++ committed r := by
  unfold committed
  cases h : pc.result <;> simp [List.filterMap_append, h]

theorem committed_same (h : pc'.result = pc.result) :
    committed (l ++ (call, pc') :: r) = committed (l ++ (call, pc) :: r) := by
  rw [committed_split, committed_split, h]

theorem committed_commit {result : CallResult} (h : pc.result = none) (h' : pc'.result = some result) :
    (committed (l ++ (call, pc') :: r)).Perm (committed (l ++ (call, pc) :: r) ++ [(call, result)]) := by
  rw [committed_split, committed_split, h, h']
  simp only [Option.map_none, Option.map_some, Option.toList_none, Option.toList_some, List.append_nil, List.append_assoc]
  exact List.Perm.append_left _ List.perm_append_comm

theorem held_split : held (l ++ (call, pc) :: r) =
    held l ++ (if pc.held = true then [(call, pc)] else []) ++ held r := by
  unfold held
  cases h : pc.held <;> simp [List.filter_append, h]

theorem held_same (h : pc.held = false) (h' : pc'.held = false) :
    held (l ++ (call, pc') :: r) = held (l ++ (call, pc) :: r) := by
  rw [held_split, held_split, h, h']
  rfl

theorem held_first (h : pc.held = false) (h' : pc'.held = true) (hnone : held (l ++ (call, pc) :: r) = []) :
    held (l ++ (call, pc') :: r) = [(call, pc')] := by
  rw [held_split, h] at hnone
  have hl : held l = [] := by simp_all
  have hr : held r = [] := by simp_all
  rw [held_split, h', hl, hr]
  rfl

theorem held_only {waiting : ServiceCall × CallPc} (h : pc.held = true)
    (hone : held (l ++ (call, pc) :: r) = [waiting]) : held l = [] ∧ held r = [] ∧ waiting = (call, pc) := by
  rw [held_split, if_pos h] at hone
  have hlen := congrArg List.length hone
  simp only [List.length_append, List.length_singleton] at hlen
  have hl : held l = [] := List.eq_nil_of_length_eq_zero (by omega)
  have hr : held r = [] := List.eq_nil_of_length_eq_zero (by omega)
  rw [hl, hr] at hone
  exact ⟨hl, hr, (List.singleton_inj.1 hone).symm⟩

theorem held_ne_nil (h : pc.held = true) : held (l ++ (call, pc) :: r) ≠ [] := by
  rw [held_split, if_pos h]
  simp

theorem held_result_none (h : pc.held = true) : pc.result = none := by
  cases pc <;> first | rfl | cases h

theorem held_result (h : pc.held = true) (h' : pc'.held = true) : pc'.result = pc.result :=
  (held_result_none h').trans (held_result_none h).symm

theorem mem_of_held {threads : List (ServiceCall × CallPc)} {waiting : ServiceCall × CallPc} (h : held threads = [waiting]) :
    waiting ∈ threads := by
  have hm : waiting ∈ held threads := by rw [h]; exact List.mem_singleton_self _
  exact List.mem_of_mem_filter hm

end

variable {svc₀ : RoomService} {s t : SharedService} {i : Nat}

instance Fair.decide (state : RoomSnapshot) (previous : Option RoomState) : ∀ call, Decidable (Fair state previous call)
  | .create _ _ | .join _ _ | .pollAndEmit (.error _) => .isTrue trivial
  | .diagnose _ _ => inferInstanceAs (Decidable (_ ≠ _))
  | .leave _ => inferInstanceAs (Decidable (_ ∧ _))
  | .pollAndEmit (.ok refresh) =>
    inferInstanceAs (Decidable (state.state = .diagnosing → ∀ network ∈ refresh.network, ∀ found ∈ previous,
      (network.isHealthy = true ↔ found = .connected)))

instance Orderly.decide (s : SharedService) (i : Nat) : Decidable (Orderly s i) :=
  match h : s.threads[i]? with
  | none => .isTrue (by simp [Orderly, h])
  | some (call, pc) => decidable_of_iff
      (pc = call.entry → ∀ waiting ∈ s.threads, Fair s.service.state waiting.2.previous call) (by simp [Orderly, h])

/-- A section that is the whole call: it belongs at the end, or beside the call that waits. -/
theorem whole_serialises {svc svc' : RoomService} {l r : List (ServiceCall × CallPc)} {call : ServiceCall}
    {pc pc' : CallPc} {result : CallResult} (hs : Serialises svc₀ ⟨svc, l ++ (call, pc) :: r⟩)
    (hfair : ∀ waiting ∈ l ++ (call, pc) :: r, Fair svc.state waiting.2.previous call) (hpc : pc = call.entry)
    (hpc' : pc'.held = false) (hresult : pc'.result = some result)
    (heffect : (svc'.state, result) = call.effect svc.state) : Serialises svc₀ ⟨svc', l ++ (call, pc') :: r⟩ := by
  obtain ⟨hheld, hnone⟩ := call.entry_held
  rw [← hpc] at hheld hnone
  obtain ⟨order, post, base, hserial, hperm, hphase⟩ := hs
  have hcommit := (List.Perm.append_right [(call, result)] hperm).trans (committed_commit hnone hresult).symm
  have hstate' : svc'.state = (call.effect svc.state).1 := congrArg Prod.fst heffect
  have hresult' : result = (call.effect svc.state).2 := congrArg Prod.snd heffect
  simp only at hphase
  rcases hphase with ⟨hfree, rfl, hstate⟩ | ⟨waiting, wpc, hone, hgap⟩
  · rw [hstate] at heffect
    obtain ⟨base', hserial', hbase'⟩ := serial_snoc hserial heffect
    refine ⟨_, [], base', hserial', ?_, Or.inl ⟨(held_same hheld hpc').trans hfree, rfl, hbase'.symm⟩⟩
    simpa using hcommit
  · have hone' := (held_same hheld hpc').trans hone
    rcases gap_other hgap (hfair _ (mem_of_held hone)) with ⟨base', hbase', hgap'⟩ | ⟨hsame, hgap'⟩
    · rw [← hresult'] at hbase'
      rw [← hstate'] at hgap'
      obtain ⟨after, hserial', rfl⟩ := serial_snoc hserial hbase'.symm
      refine ⟨_, post, after, hserial', ?_, Or.inr ⟨waiting, wpc, hone', hgap'⟩⟩
      refine List.Perm.trans ?_ hcommit
      rw [List.append_assoc, List.append_assoc]
      exact List.Perm.append_left _ List.perm_append_comm
    · rw [← hresult'] at hgap'
      rw [← hstate'] at hsame
      refine ⟨order, post ++ [(call, result)], base, hserial, ?_, Or.inr ⟨waiting, wpc, hone', ?_⟩⟩
      · rw [← List.append_assoc]
        exact hcommit
      · rw [← hsame] at hgap'
        exact hgap'

/-- **One step keeps the run serial.** -/
theorem step_serialises (hs : Serialises svc₀ s) (hok : Orderly s i) (h : step s i = some t) : Serialises svc₀ t := by
  obtain ⟨l, call, pc, r, svc', pc', hi, hthreads, hsection, rfl⟩ := step_threads h
  obtain ⟨svc, threads⟩ := s
  simp only at hthreads
  subst hthreads
  simp only [Orderly, hi] at hok
  cases hsection with
  | quiet hpc hpc' hresult hstate =>
    obtain ⟨order, post, base, hserial, hperm, hphase⟩ := hs
    refine ⟨order, post, base, hserial, ?_, ?_⟩
    · rw [committed_same hresult]
      exact hperm
    · rw [held_same hpc hpc', hstate]
      exact hphase
  | whole hpc hpc' result hresult heffect => exact whole_serialises hs (hok hpc) hpc hpc' hresult heffect
  | first hpc hpc' hadmits hstate hkeeps hprevious hcompletes hends =>
    obtain ⟨order, post, base, hserial, hperm, hphase⟩ := hs
    have hentry : pc = call.entry := by
      subst hpc
      rcases call with _ | _ | _ | _ | ⟨_ | _⟩ <;> first | rfl | exact absurd hadmits id
    obtain ⟨hheld, hnone⟩ := call.entry_held
    rw [← hentry] at hheld hnone
    rcases hphase with ⟨hfree, rfl, hsame⟩ | ⟨waiting, wpc, hone, hgap⟩
    · simp only at hsame hstate
      refine ⟨order, [], base, hserial, ?_, Or.inr ⟨call, pc', held_first hheld hpc' hfree, ?_⟩⟩
      · rw [committed_same ((held_result_none hpc').trans hnone.symm)]
        exact hperm
      · rw [hsame] at hadmits hkeeps hprevious hcompletes
        exact ⟨hstate, hadmits, hkeeps, hprevious, hcompletes, hends, fun _ hx => by cases hx⟩
    · exact absurd hadmits (gap_admits hgap (hok hentry _ (mem_of_held hone)))
  | between hpc hpc' hstate hprevious hcompletes =>
    obtain ⟨order, post, base, hserial, hperm, hphase⟩ := hs
    simp only at hphase
    rcases hphase with ⟨hfree, -, -⟩ | ⟨waiting, wpc, hone, hgap⟩
    · exact absurd hfree (held_ne_nil hpc)
    obtain ⟨hl, hr, heq⟩ := held_only hpc hone
    obtain ⟨rfl, rfl⟩ := Prod.mk.inj heq
    have hroom : waiting.keepsRoom = true → svc.state.role = base.state.role ∧
        svc.state.gameSessionId = base.state.gameSessionId := by
      intro hk
      rw [hgap.keeps hk]
      exact ⟨rfl, rfl⟩
    refine ⟨order, post, base, hserial, ?_, Or.inr ⟨waiting, pc', ?_, ?_⟩⟩
    · rw [committed_same (held_result hpc hpc')]
      exact hperm
    · rw [held_split, if_pos hpc', hl, hr]
      rfl
    · rw [hstate]
      exact gap_between hgap hprevious (hcompletes base.state hgap.admits hgap.previous hroom hgap.completes)
  | last hpc hpc' result hresult hfinish =>
    obtain ⟨order, post, base, hserial, hperm, hphase⟩ := hs
    simp only at hphase
    rcases hphase with ⟨hfree, -, -⟩ | ⟨waiting, wpc, hone, hgap⟩
    · exact absurd hfree (held_ne_nil hpc)
    obtain ⟨hl, hr, heq⟩ := held_only hpc hone
    obtain ⟨rfl, rfl⟩ := Prod.mk.inj heq
    rw [gap_finish hgap] at hfinish
    obtain ⟨base', hserial', hbase'⟩ := serial_snoc hserial hfinish
    have hends : waiting.Ends base'.state.state := by
      rw [hbase', show svc'.state = (waiting.effect base.state).1 from congrArg Prod.fst hfinish]
      exact hgap.ends base.state hgap.admits
    obtain ⟨after, hafter, hsame⟩ := serial_refused hserial' (fun x hx => hgap.post x hx base'.state hends)
    refine ⟨_, [], after, hafter, ?_, Or.inl ⟨?_, rfl, (hsame.trans hbase').symm⟩⟩
    · rw [List.append_nil]
      refine List.Perm.trans ?_ ((List.Perm.append_right [(waiting, result)] hperm).trans
        (committed_commit (held_result_none hpc) hresult).symm)
      rw [List.append_assoc, List.append_assoc]
      exact List.Perm.append_left _ List.perm_append_comm
    · rw [held_split, hpc', hl, hr]
      rfl

/-- All calls have returned. -/
def finished (s : SharedService) : Bool := s.threads.all (fun x => match x.2 with
  | .done _ => true
  | _ => false)

theorem committed_of_finished (h : s.finished = true) : committed s.threads = s.returned := by
  refine List.filterMap_congr (fun x hx => ?_)
  have hx := List.all_eq_true.1 h x hx
  obtain ⟨call, pc⟩ := x
  cases pc <;> first | rfl | cases hx

theorem returned_calls (h : s.finished = true) : s.returned.map Prod.fst = s.threads.map Prod.fst := by
  unfold returned
  rw [List.map_filterMap]
  have hfst : s.threads.filterMap (fun x => some x.1) = s.threads.map Prod.fst := by rw [List.filterMap_eq_map']
  rw [← hfst]
  refine List.filterMap_congr (fun x hx => ?_)
  have hx := List.all_eq_true.1 h x hx
  obtain ⟨call, pc⟩ := x
  cases pc <;> first | rfl | cases hx

theorem step_calls (h : step s i = some t) : t.threads.map Prod.fst = s.threads.map Prod.fst := by
  obtain ⟨l, call, pc, r, svc', pc', -, hthreads, -, rfl⟩ := step_threads h
  rw [hthreads]
  simp

theorem start_serialises (svc : RoomService) (calls : List ServiceCall) : Serialises svc (start svc calls) := by
  have hcommitted : committed (start svc calls).threads = [] := by
    unfold committed start
    rw [List.filterMap_eq_nil_iff]
    intro x hx
    obtain ⟨call, -, rfl⟩ := List.mem_map.1 hx
    rfl
  have hheld : held (start svc calls).threads = [] := by
    unfold held start
    rw [List.filter_eq_nil_iff]
    intro x hx
    obtain ⟨call, -, rfl⟩ := List.mem_map.1 hx
    simp [CallPc.held]
  exact ⟨[], [], svc, rfl, by rw [hcommitted]; exact List.Perm.refl _, Or.inl ⟨hheld, rfl, rfl⟩⟩

/-- **A finished run is a serial run.** -/
theorem finished_serial {svc : RoomService} {calls : List ServiceCall} (hs : Serialises svc s)
    (hcalls : s.threads.map Prod.fst = calls) (hfinished : s.finished = true) :
    ∃ order : List (ServiceCall × CallResult), order.Perm s.returned ∧ (order.map Prod.fst).Perm calls ∧
      (runSerial svc (order.map Prod.fst)).2 = order.map Prod.snd ∧
      (runSerial svc (order.map Prod.fst)).1.state = s.service.state := by
  obtain ⟨order, post, base, hserial, hperm, hphase⟩ := hs
  rcases hphase with ⟨-, rfl, hstate⟩ | ⟨call, pc, hone, hgap⟩
  · rw [List.append_nil, committed_of_finished hfinished] at hperm
    have hcalls' : (order.map Prod.fst).Perm calls := by
      rw [← hcalls, ← returned_calls hfinished]
      exact hperm.map Prod.fst
    exact ⟨order, hperm, hcalls', by rw [hserial], by rw [hserial, hstate]⟩
  · have hdone := List.all_eq_true.1 hfinished _ (mem_of_held hone)
    have hheld : (call, pc) ∈ held s.threads := by rw [hone]; exact List.mem_singleton_self _
    have hpc := (List.mem_filter.1 hheld).2
    cases pc with
    | done result => cases hpc
    | _ => cases hdone

/-- A create or a join is in its backend call. -/
def inOpenCall : CallPc → Bool
  | .opening .. => true
  | _ => false

theorem openCalls_le (hs : Serialises svc₀ s) : (s.threads.filter (fun x => inOpenCall x.2)).length ≤ 1 := by
  have hsub : (s.threads.filter (fun x => inOpenCall x.2)).length ≤ (held s.threads).length := by
    refine (List.monotone_filter_right s.threads (fun x hx => ?_)).length_le
    obtain ⟨call, pc⟩ := x
    cases pc <;> first | rfl | cases hx
  obtain ⟨order, post, base, -, -, hphase⟩ := hs
  rcases hphase with ⟨hfree, -⟩ | ⟨call, pc, hone, -⟩
  · rw [hfree] at hsub
    exact hsub.trans (Nat.zero_le _)
  · rw [hone] at hsub
    exact hsub

theorem held_pending (hs : Serialises svc₀ s) {call : ServiceCall} {pc : CallPc} (hm : (call, pc) ∈ s.threads)
    (hpc : pc.held = true) : s.service.state.state = call.pendingState ∧ s.service.state.state ≠ .idle := by
  have hheld : (call, pc) ∈ held s.threads := List.mem_filter.2 ⟨hm, hpc⟩
  obtain ⟨order, post, base, -, -, hphase⟩ := hs
  rcases hphase with ⟨hfree, -⟩ | ⟨waiting, wpc, hone, hgap⟩
  · rw [hfree] at hheld
    cases hheld
  · rw [hone] at hheld
    obtain ⟨rfl, rfl⟩ := Prod.mk.inj (List.mem_singleton.1 hheld)
    refine ⟨hgap.pending, ?_⟩
    rw [hgap.pending]
    cases call with
    | pollAndEmit _ => exact absurd hgap.admits id
    | _ => exact nofun

/-- **Room calls at the same time are calls in some order**, whatever was called before them, as long as no leave takes the
state lock while another call waits for its backend, no diagnosis does while one waits, and no poll brings a waiting
diagnosis a network that contradicts the state it comes back to. -/
theorem orderly_calls_are_serial (before : List RoomCall) (calls : List ServiceCall) (schedule : List Nat)
    (s : SharedService) (hrun : Run.run step (start (RoomService.new.runCalls before) calls) schedule = some s)
    (horderly : Run.Along step Orderly (start (RoomService.new.runCalls before) calls) schedule) :
    (s.finished = true → ∃ order : List (ServiceCall × CallResult), order.Perm s.returned ∧
      (order.map Prod.fst).Perm calls ∧
      (runSerial (RoomService.new.runCalls before) (order.map Prod.fst)).2 = order.map Prod.snd ∧
      (runSerial (RoomService.new.runCalls before) (order.map Prod.fst)).1.state = s.service.state) ∧
    (s.threads.filter (fun x => inOpenCall x.2)).length ≤ 1 ∧
    ∀ call pc, (call, pc) ∈ s.threads → pc.held = true →
      s.service.state.state = call.pendingState ∧ s.service.state.state ≠ .idle := by
  have hserial : Serialises (RoomService.new.runCalls before) s :=
    Run.invariant _ (fun _ _ _ hs hok h => step_serialises hs hok h) (start_serialises _ calls) horderly hrun
  have hcalls : s.threads.map Prod.fst = calls := by
    refine Run.invariant_all (fun s => s.threads.map Prod.fst = calls) (fun _ _ _ hs h => (step_calls h).trans hs) ?_ hrun
    simp [start, Function.comp_def]
  exact ⟨finished_serial hserial hcalls, openCalls_le hserial, fun _ _ hm hpc => held_pending hserial hm hpc⟩

/-- Two creates at the same time: the second is refused while the first waits, then the first one opens its room. -/
def twoCreates : List ServiceCall := [.create sampleCreate (.ok sampleRoom), .create sampleCreate (.ok sampleRoom)]

theorem two_creates_are_serial : ∃ s, Run.run step (start (RoomService.new.runCalls []) twoCreates) [0, 1, 0, 0, 0] = some s ∧
    s.finished = true ∧ ∃ order : List (ServiceCall × CallResult), order.Perm s.returned ∧
      (order.map Prod.fst).Perm twoCreates ∧
      (runSerial (RoomService.new.runCalls []) (order.map Prod.fst)).2 = order.map Prod.snd ∧
      (runSerial (RoomService.new.runCalls []) (order.map Prod.fst)).1.state = s.service.state := by
  have hrun : (Run.run step (start (RoomService.new.runCalls []) twoCreates) [0, 1, 0, 0, 0]).any
      (fun s => s.finished) = true := by decide
  have horderly : Run.Along step Orderly (start (RoomService.new.runCalls []) twoCreates) [0, 1, 0, 0, 0] := by
    decide
  obtain ⟨s, hs, hfinished⟩ := (Option.any_eq_true _ _).1 hrun
  exact ⟨s, hs, hfinished, (orderly_calls_are_serial [] twoCreates [0, 1, 0, 0, 0] s hs horderly).1 hfinished⟩

/-- A diagnosis and a leave of the open room at the same time. -/
def diagnoseAndLeave : List ServiceCall := [.diagnose (.ok {}) (.ok healthyNetwork), .leave (.ok ())]

/-- The leave runs from start to end while the diagnosis waits for its backend. -/
def leaveMeanwhile : List Nat := [0, 1, 1, 1, 1, 0, 0, 0]

/-- **A diagnosis undoes a leave that has returned**: the leave returns the idle room and the diagnosis its network, and the
stored snapshot is connected; after a diagnosis and then a leave it is idle, and after a leave the diagnosis fails. -/
theorem diagnosis_undoes_leave : ∃ s, Run.run step (start openRoom diagnoseAndLeave) leaveMeanwhile = some s ∧
    s.finished = true ∧ s.service.state.state = .connected ∧
    (ServiceCall.leave (.ok ()), CallResult.room (.ok .idle)) ∈ s.returned ∧
    ¬ ∃ order : List (ServiceCall × CallResult), order.Perm s.returned ∧
      (runSerial openRoom (order.map Prod.fst)).2 = order.map Prod.snd ∧
      (runSerial openRoom (order.map Prod.fst)).1.state = s.service.state := by
  have hrun : (Run.run step (start openRoom diagnoseAndLeave) leaveMeanwhile).any (fun s =>
      s.finished ∧ s.service.state.state = .connected ∧
        s.returned = [(.diagnose (.ok {}) (.ok healthyNetwork), .network (.ok healthyNetwork)),
          (.leave (.ok ()), .room (.ok .idle))]) = true := by decide
  obtain ⟨s, hs, hall⟩ := (Option.any_eq_true _ _).1 hrun
  obtain ⟨hfinished, hstate, hreturned⟩ := of_decide_eq_true hall
  refine ⟨s, hs, hfinished, hstate, by rw [hreturned]; simp, ?_⟩
  rintro ⟨order, hperm, hresults, hfinal⟩
  rw [hreturned, List.perm_pair] at hperm
  have hidle : (runSerial openRoom diagnoseAndLeave).1.state.state = .idle := by decide
  have hfails : (runSerial openRoom diagnoseAndLeave.reverse).2 ≠
      [.room (.ok .idle), .network (.ok healthyNetwork)] := by decide
  rcases hperm with rfl | rfl
  · rw [← hfinal] at hstate
    exact absurd (hidle.symm.trans hstate) (by decide)
  · exact hfails hresults

end SharedService

end Terracotta
