import Mathlib.Data.List.Basic
/-!
# A field that owns what it holds

A class makes things one after another, and a field has the last of them until it is disposed.  One that is stored where
the field has something already takes its place, and what was there is never disposed.  Nothing here names a particular
system.
-/

/-- `live` are the things that are not disposed, by the number of things made before them. -/
structure OwnedField where
  stored : Option Nat
  live : List Nat
  made : Nat

namespace OwnedField

variable {f : OwnedField} {n : Nat}

def empty : OwnedField := ⟨none, [], 0⟩

/-- One is made, and stored nowhere. -/
def make (f : OwnedField) : OwnedField := { f with live := f.live ++ [f.made], made := f.made + 1 }

def acquire (f : OwnedField) : OwnedField := { f.make with stored := some f.made }

def release (f : OwnedField) : OwnedField :=
  { f with stored := none, live := f.live.filter (fun n => some n ≠ f.stored) }

/-- A step that may make a thing, and then may dispose what there is. -/
def settle (f : OwnedField) (makes keeps : Bool) : OwnedField :=
  let f := if makes then f.acquire else f
  if keeps then f else f.release

/-- What is stored is live, and everything live was made. -/
structure Kept (f : OwnedField) : Prop where
  stored : ∀ n, f.stored = some n → n ∈ f.live
  made : ∀ n ∈ f.live, n < f.made

/-- Everything live can still be disposed. -/
def Tidy (f : OwnedField) : Prop := f.live = f.stored.toList

/-- **Live, and stored nowhere.** -/
def Abandoned (f : OwnedField) (n : Nat) : Prop := n ∈ f.live ∧ f.stored ≠ some n

theorem kept_empty : empty.Kept := ⟨fun n h => (by cases h), fun n h => (by cases h)⟩

theorem Kept.make (h : f.Kept) : f.make.Kept := by
  refine ⟨fun n hn => List.mem_append_left _ (h.stored n hn), fun n hn => ?_⟩
  rcases List.mem_append.1 hn with hn | hn
  · exact Nat.lt_succ_of_lt (h.made n hn)
  · rw [List.mem_singleton.1 hn]
    exact Nat.lt_succ_self _

theorem Kept.acquire (h : f.Kept) : f.acquire.Kept := by
  refine ⟨fun n hn => ?_, h.make.made⟩
  cases hn
  exact List.mem_append_right _ (List.mem_singleton_self _)

theorem Kept.release (h : f.Kept) : f.release.Kept :=
  ⟨fun n hn => (by cases hn), fun n hn => h.made n (List.mem_filter.1 hn).1⟩

theorem Kept.settle (h : f.Kept) (makes keeps : Bool) : (f.settle makes keeps).Kept := by
  unfold OwnedField.settle
  cases makes <;> cases keeps
  · exact h.release
  · exact h
  · exact h.acquire.release
  · exact h.acquire

/-- The field has something behind a step exactly if the step keeps it, where there was something to keep. -/
theorem settle_stored {makes keeps : Bool} (h : keeps = true → makes = true ∨ f.stored.isSome = true) :
    (f.settle makes keeps).stored.isSome = keeps := by
  unfold settle
  cases keeps with
  | false => rfl
  | true =>
    cases makes with
    | true => rfl
    | false => exact (h rfl).resolve_left Bool.noConfusion

theorem Tidy.release (ht : f.Tidy) : f.release.Tidy := by
  unfold Tidy OwnedField.release at *
  simp only [ht]
  cases f.stored <;> simp

theorem acquire_tidy_iff (ht : f.Tidy) : f.acquire.Tidy ↔ f.stored = none := by
  unfold Tidy acquire make at *
  simp only [ht]
  cases f.stored <;> simp

/-- A thing that lost its place is not disposed with the one that took it. -/
theorem acquire_release_tidy_iff (hk : f.Kept) (ht : f.Tidy) : f.acquire.release.Tidy ↔ f.stored = none := by
  cases hs : f.stored with
  | none => exact ⟨fun _ => rfl, fun _ => ((acquire_tidy_iff ht).2 hs).release⟩
  | some n =>
    have hlive : n ∈ f.live := hk.stored n hs
    have hlt := hk.made n hlive
    refine ⟨fun h => ?_, fun h => by cases h⟩
    have hmem : n ∈ f.acquire.release.live := List.mem_filter.2 ⟨List.mem_append_left _ hlive, by simp [acquire]; omega⟩
    rw [h] at hmem
    cases hmem

/-- **A step leaves nothing behind exactly where it makes nothing in another's place.** -/
theorem settle_tidy_iff (hk : f.Kept) (ht : f.Tidy) (makes keeps : Bool) :
    (f.settle makes keeps).Tidy ↔ (makes = true → f.stored = none) := by
  unfold settle
  cases makes with
  | false =>
    refine ⟨fun _ h => (by cases h), fun _ => ?_⟩
    cases keeps
    · exact ht.release
    · exact ht
  | true =>
    have hacquire : (if keeps = true then f.acquire else f.acquire.release).Tidy ↔ f.stored = none := by
      cases keeps
      · exact acquire_release_tidy_iff hk ht
      · exact acquire_tidy_iff ht
    exact hacquire.trans ⟨fun h _ => h, fun h => h rfl⟩

theorem make_not_tidy (hk : f.Kept) : ¬ f.make.Tidy := by
  intro h
  have hmem : f.made ∈ f.make.live := List.mem_append_right _ (List.mem_singleton_self _)
  rw [h, Option.mem_toList] at hmem
  exact absurd (hk.made _ (hk.stored _ hmem)) (Nat.lt_irrefl _)

theorem make_release_not_tidy (hk : f.Kept) : ¬ f.make.release.Tidy := by
  intro h
  have hne : f.stored ≠ some f.made := fun hs => absurd (hk.made _ (hk.stored _ hs)) (Nat.lt_irrefl _)
  have hmem : f.made ∈ f.make.release.live :=
    List.mem_filter.2 ⟨List.mem_append_right _ (List.mem_singleton_self _), decide_eq_true hne.symm⟩
  rw [h] at hmem
  cases hmem

theorem acquire_abandons (hk : f.Kept) (h : f.stored = some n) : f.acquire.Abandoned n := by
  have hlive := hk.stored n h
  have hlt := hk.made n hlive
  exact ⟨List.mem_append_left _ hlive, fun hn => absurd (Option.some.inj hn) (by omega)⟩

/-- **What is abandoned stays so.** -/
theorem Abandoned.settle (hk : f.Kept) (h : f.Abandoned n) (makes keeps : Bool) : (f.settle makes keeps).Abandoned n := by
  have hacquire : f.acquire.Abandoned n :=
    ⟨List.mem_append_left _ h.1, fun hn => absurd (Option.some.inj hn) (Nat.ne_of_gt (hk.made n h.1))⟩
  have hrelease : ∀ {g : OwnedField}, g.Abandoned n → g.release.Abandoned n := fun hg =>
    ⟨List.mem_filter.2 ⟨hg.1, decide_eq_true fun hn => hg.2 hn.symm⟩, fun hn => by cases hn⟩
  unfold OwnedField.settle
  cases makes <;> cases keeps
  · exact hrelease h
  · exact h
  · exact hrelease hacquire
  · exact hacquire

theorem settle_abandons (hk : f.Kept) (h : f.stored = some n) (keeps : Bool) : (f.settle true keeps).Abandoned n := by
  have ha : (f.acquire.settle false keeps).Abandoned n := (acquire_abandons hk h).settle hk.acquire false keeps
  cases keeps <;> exact ha

theorem Abandoned.make (h : f.Abandoned n) : f.make.Abandoned n := ⟨List.mem_append_left _ h.1, h.2⟩

end OwnedField
