import Mathlib.Data.List.Basic
/-!
# Runs of a partial step function

A system is a state type, a label type and `step : σ → ℓ → Option σ`: the label says who moves and what the
environment answers, so one label leads to at most one state, and every nondeterminism of the system is in the choice
of the labels.  A run is a list of labels.  Nothing here names a particular system.
-/
namespace Run

variable {σ ℓ : Type}

/-- The state a list of labels leads to; `none` as soon as a label is not enabled. -/
def run (step : σ → ℓ → Option σ) : σ → List ℓ → Option σ
  | s, [] => some s
  | s, l :: ls => match step s l with
    | none => none
    | some t => run step t ls

/-- **Every label of a run is taken where `ok` allows it**, read at the state before it. -/
def Along (step : σ → ℓ → Option σ) (ok : σ → ℓ → Prop) : σ → List ℓ → Prop
  | _, [] => True
  | s, l :: ls => ok s l ∧ match step s l with
    | none => True
    | some t => Along step ok t ls

instance Along.decide (step : σ → ℓ → Option σ) (ok : σ → ℓ → Prop) [∀ s l, Decidable (ok s l)] :
    ∀ s ls, Decidable (Along step ok s ls)
  | _, [] => .isTrue trivial
  | s, l :: ls =>
    match h : step s l with
    | none => decidable_of_iff (ok s l) (by simp [Along, h])
    | some t =>
      have := Along.decide step ok t ls
      decidable_of_iff (ok s l ∧ Along step ok t ls) (by simp [Along, h])

/-- **Every state a run goes through has `I`**, the first and the last ones among them. -/
def Always (step : σ → ℓ → Option σ) (I : σ → Prop) : σ → List ℓ → Prop
  | s, [] => I s
  | s, l :: ls => I s ∧ match step s l with
    | none => True
    | some t => Always step I t ls

variable {step : σ → ℓ → Option σ} {ok : σ → ℓ → Prop}

theorem run_cons {s u : σ} {l : ℓ} {ls : List ℓ} (h : run step s (l :: ls) = some u) :
    ∃ t, step s l = some t ∧ run step t ls = some u := by
  rw [run] at h
  split at h
  · cases h
  · rename_i t ht; exact ⟨t, ht, h⟩

theorem along_cons {s t : σ} {l : ℓ} {ls : List ℓ} (h : Along step ok s (l :: ls)) (ht : step s l = some t) :
    ok s l ∧ Along step ok t ls := by
  simpa [Along, ht] using h

theorem run_append {s u : σ} : ∀ {as bs : List ℓ}, run step s (as ++ bs) = some u →
    ∃ t, run step s as = some t ∧ run step t bs = some u
  | [], _, h => ⟨s, rfl, h⟩
  | l :: as, bs, h => by
    obtain ⟨t, ht, hu⟩ := run_cons h
    obtain ⟨v, hv, hb⟩ := run_append hu
    exact ⟨v, by simpa [run, ht] using hv, hb⟩

theorem run_trans {t u : σ} {bs : List ℓ} : ∀ {s : σ} {as : List ℓ}, run step s as = some t → run step t bs = some u →
    run step s (as ++ bs) = some u
  | s, [], h, hu => by
    simp only [run, Option.some.injEq] at h
    subst h
    exact hu
  | s, l :: as, h, hu => by
    obtain ⟨v, hv, hrest⟩ := run_cons h
    have ih := run_trans hrest hu
    simpa [run, hv] using ih

theorem run_snoc {s t u : σ} {l : ℓ} {ls : List ℓ} (h : run step s ls = some t) (hu : step t l = some u) :
    run step s (ls ++ [l]) = some u :=
  run_trans h (by simp [run, hu])

theorem along_append {s t : σ} : ∀ {as bs : List ℓ}, Along step ok s (as ++ bs) → run step s as = some t →
    Along step ok s as ∧ Along step ok t bs
  | [], _, h, ht => by
    simp only [run, Option.some.injEq] at ht
    subst ht
    exact ⟨trivial, h⟩
  | l :: as, bs, h, ht => by
    obtain ⟨u, hu, hut⟩ := run_cons ht
    obtain ⟨hok, hrest⟩ := along_cons h hu
    obtain ⟨h1, h2⟩ := along_append hrest hut
    exact ⟨by simpa [Along, hu] using ⟨hok, h1⟩, h2⟩

theorem along_and {ok ok' : σ → ℓ → Prop} {s : σ} : ∀ {ls : List ℓ}, Along step ok s ls → Along step ok' s ls →
    Along step (fun s l => ok s l ∧ ok' s l) s ls
  | [], _, _ => trivial
  | l :: ls, h, h' => by
    refine ⟨⟨h.1, h'.1⟩, ?_⟩
    split
    · trivial
    · rename_i t ht
      exact along_and (along_cons h ht).2 (along_cons h' ht).2

/-- **The invariant rule**: what every allowed step keeps, every allowed run keeps. -/
theorem invariant (I : σ → Prop) (hstep : ∀ s l t, I s → ok s l → step s l = some t → I t) {s u : σ} :
    ∀ {ls : List ℓ}, I s → Along step ok s ls → run step s ls = some u → I u
  | [], hi, _, h => by
    simp only [run, Option.some.injEq] at h
    exact h ▸ hi
  | l :: ls, hi, ha, h => by
    obtain ⟨t, ht, hu⟩ := run_cons h
    obtain ⟨hok, hrest⟩ := along_cons ha ht
    exact invariant I hstep (hstep s l t hi hok ht) hrest hu

/-- **What a run adds to a log**: an invariant under which every allowed step only adds entries with `Q`. -/
theorem grows {ε : Type} (log : σ → List ε) (I : σ → Prop) (Q : ε → Prop)
    (hstep : ∀ s l t, I s → ok s l → step s l = some t → I t ∧ ∃ es, log t = log s ++ es ∧ ∀ e ∈ es, Q e) {s u : σ} :
    ∀ {ls : List ℓ}, I s → Along step ok s ls → run step s ls = some u →
      ∃ es, log u = log s ++ es ∧ ∀ e ∈ es, Q e
  | [], _, _, h => by
    simp only [run, Option.some.injEq] at h
    exact ⟨[], by simp [h], by simp⟩
  | l :: ls, hi, ha, h => by
    obtain ⟨t, ht, hu⟩ := run_cons h
    obtain ⟨hok, hrest⟩ := along_cons ha ht
    obtain ⟨hit, es, hes, hq⟩ := hstep s l t hi hok ht
    obtain ⟨fs, hfs, hf⟩ := grows log I Q hstep hit hrest hu
    refine ⟨es ++ fs, by rw [hfs, hes, List.append_assoc], fun e he => ?_⟩
    rcases List.mem_append.1 he with he | he
    · exact hq e he
    · exact hf e he

/-- **The simulation rule**: where every allowed step is matched by a list of operations of another system, so is every
allowed run. -/
theorem simulates {α ω : Type} (apply : α → ω → α) (R : σ → α → Prop)
    (hstep : ∀ s a l t, R s a → ok s l → step s l = some t → ∃ ops : List ω, R t (ops.foldl apply a)) {u : σ} :
    ∀ {ls : List ℓ} {s : σ} {a : α}, R s a → Along step ok s ls → run step s ls = some u →
      ∃ ops : List ω, R u (ops.foldl apply a)
  | [], s, a, hr, _, h => by
    simp only [run, Option.some.injEq] at h
    exact ⟨[], h ▸ hr⟩
  | l :: ls, s, a, hr, ha, h => by
    obtain ⟨t, ht, hu⟩ := run_cons h
    obtain ⟨hok, hrest⟩ := along_cons ha ht
    obtain ⟨ops, hops⟩ := hstep s a l t hr hok ht
    obtain ⟨more, hmore⟩ := simulates apply R hstep hops hrest hu
    exact ⟨ops ++ more, by rw [List.foldl_append]; exact hmore⟩

theorem always_last {I : σ → Prop} {s u : σ} : ∀ {ls : List ℓ}, Always step I s ls → run step s ls = some u → I u
  | [], ha, h => by
    simp only [run, Option.some.injEq] at h
    exact h ▸ ha
  | l :: ls, ha, h => by
    obtain ⟨t, ht, hu⟩ := run_cons h
    have htail : Always step I t ls := by simpa [Always, ht] using ha.2
    exact always_last htail hu

/-- **The exact condition for an invariant**, in runs of states with `W`: where `ok` says of a step that what it leads to
has `I`, the states of a run have `I` exactly when its steps are `ok`. -/
theorem always_iff_along_of (W I : σ → Prop) (hW : ∀ s l t, W s → step s l = some t → W t)
    (hstep : ∀ s l, W s → I s → (ok s l ↔ ∀ t, step s l = some t → I t)) :
    ∀ (ls : List ℓ) {s : σ}, W s → I s → (Always step I s ls ↔ Along step ok s ls)
  | [], _, _, hi => ⟨fun _ => trivial, fun _ => hi⟩
  | l :: ls, s, hw, hi => by
    have hs := hstep s l hw hi
    simp only [Always, Along]
    cases ht : step s l with
    | none => exact ⟨fun _ => ⟨hs.2 (fun t h => by rw [ht] at h; cases h), trivial⟩, fun _ => ⟨hi, trivial⟩⟩
    | some t =>
      have htail : I t → (Always step I t ls ↔ Along step ok t ls) :=
        always_iff_along_of W I hW hstep ls (hW s l t hw ht)
      have hhead : Always step I t ls → I t := fun h => by cases ls <;> first | exact h | exact h.1
      constructor
      · rintro ⟨-, h⟩
        refine ⟨hs.2 (fun u hu => ?_), (htail (hhead h)).1 h⟩
        rw [ht] at hu
        cases hu
        exact hhead h
      · rintro ⟨hok, h⟩
        exact ⟨hi, (htail (hs.1 hok t ht)).2 h⟩

/-- The exact condition for an invariant, of any state. -/
theorem always_iff_along (I : σ → Prop) (hstep : ∀ s l, I s → (ok s l ↔ ∀ t, step s l = some t → I t))
    (ls : List ℓ) {s : σ} (hi : I s) : Always step I s ls ↔ Along step ok s ls :=
  always_iff_along_of (fun _ => True) I (fun _ _ _ _ _ => trivial) (fun s l _ => hstep s l) ls trivial hi

/-- Two conditions that say the same of every state with the invariant say the same of a run. -/
theorem along_congr {ok' : σ → ℓ → Prop} (I : σ → Prop) (hstep : ∀ s l t, I s → step s l = some t → I t)
    (h : ∀ s l, I s → (ok s l ↔ ok' s l)) : ∀ (ls : List ℓ) {s : σ}, I s → (Along step ok s ls ↔ Along step ok' s ls)
  | [], _, _ => Iff.rfl
  | l :: ls, s, hi => by
    simp only [Along]
    rw [h s l hi]
    cases ht : step s l with
    | none => exact Iff.rfl
    | some t => exact and_congr_right (fun _ => along_congr I hstep h ls (hstep s l t hi ht))

theorem along_of_forall (h : ∀ s l, ok s l) : ∀ (s : σ) (ls : List ℓ), Along step ok s ls
  | _, [] => trivial
  | s, l :: ls => by
    refine ⟨h s l, ?_⟩
    split
    · trivial
    · exact along_of_forall h _ ls

theorem invariant_all (I : σ → Prop) (hstep : ∀ s l t, I s → step s l = some t → I t) {s u : σ} {ls : List ℓ}
    (hi : I s) (h : run step s ls = some u) : I u :=
  invariant I (fun s l t hi (_ : True) ht => hstep s l t hi ht) hi (along_of_forall (fun _ _ => trivial) s ls) h

end Run
