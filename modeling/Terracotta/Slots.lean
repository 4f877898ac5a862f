import Mathlib.Data.List.Perm.Basic
/-!
# What the parties of a list hold

Parties stand in a list, and each of them may hold one thing: `held` says what.  One party at a time changes, or leaves;
here is what becomes of the things held by all of them.
-/
namespace Slots

variable {α β : Type} {parties : List α} {i : Nat} {a : α} (held : α → Option β)

theorem eraseIdx_perm (h : parties[i]? = some a) :
    (parties.filterMap held).Perm ((held a).toList ++ (parties.eraseIdx i).filterMap held) := by
  obtain ⟨hi, rfl⟩ := List.getElem?_eq_some_iff.1 h
  have hperm := (List.getElem_cons_eraseIdx_perm hi).symm.filterMap held
  rw [List.filterMap_cons] at hperm
  cases ha : held parties[i] <;> rw [ha] at hperm <;> exact hperm

theorem set_perm (h : parties[i]? = some a) (b : α) :
    ((parties.set i b).filterMap held).Perm ((held b).toList ++ (parties.eraseIdx i).filterMap held) := by
  obtain ⟨hi, -⟩ := List.getElem?_eq_some_iff.1 h
  have hperm := (List.set_perm_cons_eraseIdx hi b).filterMap held
  rw [List.filterMap_cons] at hperm
  cases hb : held b <;> rw [hb] at hperm <;> exact hperm

section count

variable [BEq β]

theorem count_eraseIdx (h : parties[i]? = some a) (x : β) :
    ((parties.eraseIdx i).filterMap held).count x + (held a).toList.count x = (parties.filterMap held).count x := by
  have herase := (eraseIdx_perm held h).count_eq x
  rw [List.count_append] at herase
  omega

theorem count_set (h : parties[i]? = some a) (b : α) (x : β) :
    ((parties.set i b).filterMap held).count x + (held a).toList.count x =
      (parties.filterMap held).count x + (held b).toList.count x := by
  have hset := (set_perm held h b).count_eq x
  have herase := (eraseIdx_perm held h).count_eq x
  rw [List.count_append] at hset herase
  omega

/-- A party goes on with what it has. -/
theorem count_set_of_eq (h : parties[i]? = some a) {b : α} (hb : held b = held a) (x : β) :
    ((parties.set i b).filterMap held).count x = (parties.filterMap held).count x := by
  have hcount := count_set held h b x
  rw [hb] at hcount
  exact Nat.add_right_cancel hcount

theorem count_eraseIdx_of_none (h : parties[i]? = some a) (ha : held a = none) (x : β) :
    ((parties.eraseIdx i).filterMap held).count x = (parties.filterMap held).count x := by
  have hcount := count_eraseIdx held h x
  rw [ha] at hcount
  exact hcount

theorem count_snoc_of_none (parties : List α) (ha : held a = none) (x : β) :
    ((parties ++ [a]).filterMap held).count x = (parties.filterMap held).count x := by
  rw [List.filterMap_append, List.filterMap_cons, ha]
  simp

end count

theorem mem_eraseIdx (h : parties[i]? = some a) (x : β) :
    x ∈ parties.filterMap held ↔ held a = some x ∨ x ∈ (parties.eraseIdx i).filterMap held := by
  rw [(eraseIdx_perm held h).mem_iff, List.mem_append, Option.mem_toList]

theorem mem_set (h : parties[i]? = some a) (b : α) (x : β) :
    x ∈ (parties.set i b).filterMap held ↔ held b = some x ∨ x ∈ (parties.eraseIdx i).filterMap held := by
  rw [(set_perm held h b).mem_iff, List.mem_append, Option.mem_toList]

theorem mem_set_of_none (h : parties[i]? = some a) (ha : held a = none) {b : α} (hb : held b = none) (x : β) :
    x ∈ (parties.set i b).filterMap held ↔ x ∈ parties.filterMap held := by
  rw [mem_eraseIdx held h, mem_set held h, ha, hb]

theorem mem_eraseIdx_of_none (h : parties[i]? = some a) (ha : held a = none) (x : β) :
    x ∈ (parties.eraseIdx i).filterMap held ↔ x ∈ parties.filterMap held := by
  rw [mem_eraseIdx held h, ha]
  simp

theorem mem_snoc_of_none (parties : List α) (ha : held a = none) (x : β) :
    x ∈ (parties ++ [a]).filterMap held ↔ x ∈ parties.filterMap held := by
  rw [List.filterMap_append, List.filterMap_cons, ha]
  simp

end Slots
