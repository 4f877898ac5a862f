import Mathlib.Data.List.Basic
/-!
# A bounded queue that drops its oldest element

Writing never waits: where there is no room for another element, the oldest one makes way.  `Delivers` compares what a
reader has taken with everything that was written: it is in order, and none of the last `capacity` elements is missing.
-/
namespace BoundedQueue

variable {α : Type} {capacity : Nat} {written out queue : List α}

def write (capacity : Nat) (queue : List α) (a : α) : List α :=
  if queue.length < capacity then queue ++ [a] else queue.tail ++ [a]

theorem write_of_room (h : queue.length < capacity) (a : α) : write capacity queue a = queue ++ [a] := if_pos h

theorem write_full {b : α} (h : capacity ≤ (b :: queue).length) (a : α) :
    write capacity (b :: queue) a = queue ++ [a] := if_neg (Nat.not_lt.2 h)

theorem write_sublist (a : α) : (write capacity queue a).Sublist (queue ++ [a]) := by
  unfold write
  split
  · exact List.Sublist.refl _
  · exact (List.tail_sublist queue).append (List.Sublist.refl _)

theorem length_write_le (hcapacity : 0 < capacity) (h : queue.length ≤ capacity) (a : α) :
    (write capacity queue a).length ≤ capacity := by
  unfold write
  split <;> simp <;> omega

/-- **What has come `out` of a queue, and what is still in it, of all that was written.** -/
structure Delivers (capacity : Nat) (written out queue : List α) : Prop where
  order : (out ++ queue).Sublist written
  recent : written.drop (written.length - capacity) <:+ out ++ queue
  bound : queue.length ≤ capacity

theorem Delivers.nil (capacity : Nat) : Delivers capacity ([] : List α) [] [] where
  order := List.Sublist.refl _
  recent := by simp
  bound := Nat.zero_le _

theorem Delivers.read {a : α} (h : Delivers capacity written out (a :: queue)) :
    Delivers capacity written (out ++ [a]) queue where
  order := by simpa using h.order
  recent := by simpa using h.recent
  bound := Nat.le_of_succ_le h.bound

theorem drop_snoc {n : Nat} (h : n ≤ written.length) (a : α) : (written ++ [a]).drop n = written.drop n ++ [a] :=
  List.drop_append_of_le_length h

theorem suffix_append_right {l m : List α} (h : l <:+ m) (a : α) : l ++ [a] <:+ m ++ [a] := by
  obtain ⟨front, rfl⟩ := h
  exact ⟨front, by simp⟩

/-- The last elements of a longer list, but for the new one. -/
theorem recent_snoc (hcapacity : 0 < capacity) (a : α) :
    (written ++ [a]).drop ((written ++ [a]).length - capacity) = written.drop (written.length + 1 - capacity) ++ [a] := by
  rw [List.length_append, List.length_singleton]
  exact drop_snoc (by omega) a

/-- A full queue holds the last elements that were written. -/
theorem Delivers.queue_eq (h : Delivers capacity written out queue) (hfull : queue.length = capacity) :
    queue = written.drop (written.length - capacity) := by
  have hlen : capacity ≤ written.length := by
    have hsub := h.order.length_le
    rw [List.length_append] at hsub
    omega
  obtain ⟨front, hfront⟩ := h.recent
  have hlast : (written.drop (written.length - capacity)).length = queue.length := by
    rw [List.length_drop]
    omega
  exact (List.append_inj' hfront hlast).2.symm

/-- Without its oldest element such a queue is what comes before another one. -/
theorem Delivers.tail_eq (h : Delivers capacity written out queue) (hfull : queue.length = capacity) :
    queue.tail = written.drop (written.length + 1 - capacity) := by
  have hqueue := h.queue_eq hfull
  have hlen : capacity ≤ written.length := by
    rw [hqueue, List.length_drop] at hfull
    omega
  rw [hqueue, List.tail_drop]
  congr 1
  omega

theorem Delivers.write (h : Delivers capacity written out queue) (hcapacity : 0 < capacity) (a : α) :
    Delivers capacity (written ++ [a]) out (write capacity queue a) where
  order := by
    have hsub := (List.Sublist.refl out).append (@write_sublist _ capacity queue a)
    rw [← List.append_assoc] at hsub
    exact hsub.trans (h.order.append (List.Sublist.refl _))
  recent := by
    rw [recent_snoc hcapacity]
    by_cases hroom : queue.length < capacity
    · rw [write_of_room hroom, ← List.append_assoc]
      refine suffix_append_right (List.IsSuffix.trans ?_ h.recent) a
      exact List.drop_suffix_drop_left _ (by omega)
    · have hfull : queue.length = capacity := Nat.le_antisymm h.bound (Nat.not_lt.1 hroom)
      rw [BoundedQueue.write, if_neg hroom, h.tail_eq hfull, ← List.append_assoc]
      exact suffix_append_right (List.suffix_append _ _) a
  bound := length_write_le hcapacity h.bound a

end BoundedQueue
