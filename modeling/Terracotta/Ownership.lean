import Mathlib.Data.List.Basic
/-!
# Procedures that start resources and may fail

A procedure starts one resource after another, and between any two of them it may fail; each of its exits then stops by
hand what is there so far.  `Ensures` is what such a procedure owes: behind a failure as much is alive as before it, and a
result accounts for whatever was started.  Nothing here names a particular system.
-/
namespace Ownership

structure Resource (κ : Type) where
  kind : κ
  id : Nat
deriving DecidableEq

/-- The resources that are alive, and the name the next one gets. -/
structure Heap (κ : Type) where
  alive : List (Resource κ)
  next : Nat

variable {κ ε α β γ δ : Type}

namespace Heap

/-- Every name in use was given. -/
def Named (h : Heap κ) : Prop := ∀ r ∈ h.alive, r.id < h.next

variable [DecidableEq κ]

def stop (h : Heap κ) (r : Resource κ) : Heap κ := { h with alive := h.alive.filter (· ≠ r) }

def stopAll (h : Heap κ) (rs : List (Resource κ)) : Heap κ := rs.foldl stop h

@[simp] theorem stop_next (h : Heap κ) (r : Resource κ) : (h.stop r).next = h.next := rfl

@[simp] theorem mem_stop {h : Heap κ} {r x : Resource κ} : x ∈ (h.stop r).alive ↔ x ∈ h.alive ∧ x ≠ r := by
  simp [stop]

@[simp] theorem stopAll_next : ∀ (rs : List (Resource κ)) (h : Heap κ), (h.stopAll rs).next = h.next
  | [], _ => rfl
  | r :: rs, h => (stopAll_next rs (h.stop r)).trans (h.stop_next r)

@[simp] theorem mem_stopAll {x : Resource κ} : ∀ {rs : List (Resource κ)} {h : Heap κ},
    x ∈ (h.stopAll rs).alive ↔ x ∈ h.alive ∧ x ∉ rs
  | [], h => by simp [stopAll]
  | r :: rs, h => by
    show x ∈ ((h.stop r).stopAll rs).alive ↔ _
    rw [mem_stopAll, mem_stop, List.mem_cons, not_or, and_assoc]

end Heap

/-! ## Procedures -/

def Procedure (κ ε α : Type) : Type := Heap κ → Except ε α × Heap κ

namespace Procedure

def bind (x : Procedure κ ε α) (k : α → Procedure κ ε β) : Procedure κ ε β := fun h =>
  match x h with
  | (.error e, h') => (.error e, h')
  | (.ok a, h') => k a h'

instance : Monad (Procedure κ ε) where
  pure a := fun h => (.ok a, h)
  bind := bind

/-- A step that starts nothing. -/
def attempt (x : Except ε α) : Procedure κ ε α := fun h => (x, h)

/-- A step that starts a resource, unless it fails. -/
def start (kind : κ) (x : Except ε α) : Procedure κ ε (α × Resource κ) := fun h =>
  match x with
  | .error e => (.error e, h)
  | .ok a => (.ok (a, ⟨kind, h.next⟩), ⟨h.alive ++ [⟨kind, h.next⟩], h.next + 1⟩)

/-- An exit that stops these first. -/
def orStop [DecidableEq κ] (x : Procedure κ ε α) (rs : List (Resource κ)) : Procedure κ ε α := fun h =>
  match x h with
  | (.error e, h') => (.error e, h'.stopAll rs)
  | (.ok a, h') => (.ok a, h')

end Procedure

open Procedure

/-! ## Who owns what is alive -/

/-- Since `h₀` exactly `rs` were started, and they are alive. -/
structure Started (h₀ : Heap κ) (rs : List (Resource κ)) (h : Heap κ) : Prop where
  next : h₀.next ≤ h.next
  alive : ∀ r, r ∈ h.alive ↔ r ∈ h₀.alive ∨ r ∈ rs
  named : ∀ r ∈ rs, h₀.next ≤ r.id ∧ r.id < h.next
  all : ∀ id, h₀.next ≤ id → id < h.next → ∃ r ∈ rs, r.id = id

/-- What is alive is what was alive at `h₀`, whatever was started since. -/
structure Undone (h₀ h : Heap κ) : Prop where
  next : h₀.next ≤ h.next
  alive : ∀ r, r ∈ h.alive ↔ r ∈ h₀.alive

/-- **The obligation of a procedure** that goes on from a heap in which `rs` were started: to undo that if it fails, and
else to have started what `owned` says of its result. -/
def Ensures (h₀ : Heap κ) (rs : List (Resource κ)) (x : Procedure κ ε α) (owned : α → List (Resource κ)) : Prop :=
  ∀ h, Started h₀ rs h → match x h with
    | (.error _, h') => Undone h₀ h'
    | (.ok a, h') => Started h₀ (owned a) h'

theorem started_nil (h : Heap κ) : Started h [] h :=
  ⟨Nat.le_refl _, fun r => by simp, fun r hr => absurd hr List.not_mem_nil, fun id hle hlt => absurd hlt (Nat.not_lt.2 hle)⟩

section rules

variable {h₀ : Heap κ} {rs cs : List (Resource κ)}

/-- Stopping what was started undoes it. -/
theorem Started.stopAll [DecidableEq κ] {h : Heap κ} (hnamed : h₀.Named) (hs : Started h₀ rs h) (hcs : ∀ r, r ∈ cs ↔ r ∈ rs) :
    Undone h₀ (h.stopAll cs) := by
  refine ⟨by rw [Heap.stopAll_next]; exact hs.next, fun r => ?_⟩
  rw [Heap.mem_stopAll, hs.alive, hcs]
  constructor
  · rintro ⟨hr | hr, hnot⟩
    · exact hr
    · exact absurd hr hnot
  · intro hr
    -- what was alive has an older name than anything in `rs`
    refine ⟨.inl hr, fun hmem => ?_⟩
    exact absurd (hnamed r hr) (Nat.not_lt.2 (hs.named r hmem).1)

theorem Started.cons {h : Heap κ} (hs : Started h₀ rs h) (kind : κ) :
    Started h₀ (rs ++ [⟨kind, h.next⟩]) ⟨h.alive ++ [⟨kind, h.next⟩], h.next + 1⟩ := by
  refine ⟨Nat.le_succ_of_le hs.next, fun r => ?_, fun r hr => ?_, fun id hle hlt => ?_⟩
  · rw [List.mem_append, List.mem_append, hs.alive, or_assoc]
  · rcases List.mem_append.1 hr with hr | hr
    · exact ⟨(hs.named r hr).1, Nat.lt_succ_of_lt (hs.named r hr).2⟩
    · obtain rfl := List.mem_singleton.1 hr
      exact ⟨hs.next, Nat.lt_succ_self _⟩
  · rcases Nat.lt_succ_iff_lt_or_eq.1 hlt with hlt | rfl
    · obtain ⟨r, hr, hid⟩ := hs.all id hle hlt
      exact ⟨r, List.mem_append_left _ hr, hid⟩
    · exact ⟨_, List.mem_append_right _ (List.mem_singleton_self _), rfl⟩

theorem Ensures.bind {x : Procedure κ ε α} {k : α → Procedure κ ε β} {owned : α → List (Resource κ)}
    {owned' : β → List (Resource κ)} (hx : Ensures h₀ rs x owned) (hk : ∀ a, Ensures h₀ (owned a) (k a) owned') :
    Ensures h₀ rs (x >>= k) owned' := by
  intro h hs
  have hstep := hx h hs
  show match Procedure.bind x k h with
    | (.error _, h') => Undone h₀ h'
    | (.ok a, h') => Started h₀ (owned' a) h'
  unfold Procedure.bind
  generalize x h = result at hstep
  obtain ⟨e | a, h'⟩ := result
  · exact hstep
  · exact hk a h' hstep

theorem Ensures.pure {a : α} {owned : α → List (Resource κ)} (hrs : owned a = rs) :
    Ensures h₀ rs (Pure.pure a : Procedure κ ε α) owned := by
  intro h hs
  show Started h₀ (owned a) h
  rw [hrs]
  exact hs

/-- A step that starts nothing, behind an exit that stops what is there. -/
theorem Ensures.attempt [DecidableEq κ] (hnamed : h₀.Named) (x : Except ε α) (hcs : ∀ r, r ∈ cs ↔ r ∈ rs) :
    Ensures h₀ rs ((attempt x).orStop cs) (fun _ => rs) := by
  intro h hs
  cases x with
  | error e => exact hs.stopAll hnamed hcs
  | ok a => exact hs

/-- A step that starts a resource, behind such an exit. -/
theorem Ensures.start [DecidableEq κ] (hnamed : h₀.Named) (kind : κ) (x : Except ε α) (hcs : ∀ r, r ∈ cs ↔ r ∈ rs) :
    Ensures h₀ rs ((start kind x).orStop cs) (fun a => rs ++ [a.2]) := by
  intro h hs
  cases x with
  | error e => exact hs.stopAll hnamed hcs
  | ok a => exact hs.cons kind

/-- A step that fails before anything is started has nothing to stop. -/
theorem Ensures.first (x : Except ε α) : Ensures h₀ [] (Procedure.attempt x) (fun _ => []) := by
  intro h hs
  cases x with
  | error e => exact ⟨hs.next, fun r => by rw [hs.alive]; simp⟩
  | ok a => exact hs

theorem Ensures.startFirst (kind : κ) (x : Except ε α) : Ensures h₀ [] (Procedure.start kind x) (fun a => [a.2]) := by
  intro h hs
  cases x with
  | error e => exact ⟨hs.next, fun r => by rw [hs.alive]; simp⟩
  | ok a => exact hs.cons kind

end rules

/-! ## What is left without the resources -/

/-- Apart from the resources in its result, a procedure comes to `y`, whatever the heap. -/
def Erases (x : Procedure κ ε α) (f : α → β) (y : Except ε β) : Prop := ∀ h, (x h).1.map f = y

theorem Erases.bind {x : Procedure κ ε α} {f : α → β} {y : Except ε β} {k : α → Procedure κ ε γ} {g : γ → δ}
    {l : β → Except ε δ} (hx : Erases x f y) (hk : ∀ a, Erases (k a) g (l (f a))) : Erases (x >>= k) g (y >>= l) := by
  intro h
  have hstep := hx h
  show (Procedure.bind x k h).1.map g = _
  unfold Procedure.bind
  generalize x h = result at hstep
  obtain ⟨e | a, h'⟩ := result
  · rw [← hstep]
    rfl
  · rw [← hstep]
    exact hk a h'

theorem Erases.pure (a : α) (f : α → β) : Erases (Pure.pure a : Procedure κ ε α) f (.ok (f a)) := fun _ => rfl

theorem Erases.attempt (x : Except ε α) : Erases (κ := κ) (Procedure.attempt x) id x := by
  intro h
  cases x <;> rfl

theorem Erases.start (kind : κ) (x : Except ε α) : Erases (Procedure.start kind x) Prod.fst x := by
  intro h
  cases x <;> rfl

theorem Erases.orStop [DecidableEq κ] {x : Procedure κ ε α} {f : α → β} {y : Except ε β} (hx : Erases x f y) (rs : List (Resource κ)) :
    Erases (x.orStop rs) f y := by
  intro h
  have hstep := hx h
  unfold Procedure.orStop
  generalize x h = result at hstep
  obtain ⟨e | a, h'⟩ := result <;> exact hstep

end Ownership
