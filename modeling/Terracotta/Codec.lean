import Mathlib.Data.List.Basic
/-!
# Readers that take exactly what a writer wrote

A reader takes a value off the front of its input and answers with the rest; a writer answers with the bytes of a value.
`Exact` is the one law between them, and it says both directions at once: what is written reads back, and what is read was
written so.  Nothing here names a particular format.
-/
namespace Codec

variable {α β ε δ : Type}

/-- **The reader accepts exactly the writer's texts**, each for its value and up to its end. -/
def Exact (read : List β → Except ε (α × List β)) (write : α → Except δ (List β)) : Prop :=
  ∀ s a rest, read s = .ok (a, rest) ↔ ∃ bytes, write a = .ok bytes ∧ s = bytes ++ rest

def readMany (read : List β → Except ε (α × List β)) : Nat → List β → Except ε (List α × List β)
  | 0, s => .ok ([], s)
  | n + 1, s => match read s with
    | .error e => .error e
    | .ok (a, s) => match readMany read n s with
      | .error e => .error e
      | .ok (as, s) => .ok (a :: as, s)

def writeAll (write : α → Except δ (List β)) : List α → Except δ (List β)
  | [] => .ok []
  | a :: as => match write a with
    | .error e => .error e
    | .ok bytes => match writeAll write as with
      | .error e => .error e
      | .ok more => .ok (bytes ++ more)

variable {read : List β → Except ε (α × List β)} {write : α → Except δ (List β)}

theorem writeAll_cons {a : α} {as : List α} {bytes : List β} : writeAll write (a :: as) = .ok bytes ↔
    ∃ first more, write a = .ok first ∧ writeAll write as = .ok more ∧ bytes = first ++ more := by
  rw [writeAll]
  constructor
  · intro h
    split at h
    · cases h
    · rename_i first hfirst
      split at h
      · cases h
      · rename_i more hmore
        cases h
        exact ⟨first, more, hfirst, hmore, rfl⟩
  · rintro ⟨first, more, hfirst, hmore, rfl⟩
    simp only [hfirst, hmore]

/-- **Values written one after another read back one after another**, and nothing behind them is touched. -/
theorem Exact.readMany_writeAll (h : Exact read write) : ∀ {as : List α} {bytes : List β} (rest : List β),
    writeAll write as = .ok bytes → readMany read as.length (bytes ++ rest) = .ok (as, rest)
  | [], _, rest, hw => by
    cases hw
    rfl
  | a :: as, bytes, rest, hw => by
    obtain ⟨first, more, hfirst, hmore, rfl⟩ := writeAll_cons.1 hw
    have hread : read (first ++ (more ++ rest)) = .ok (a, more ++ rest) := (h _ _ _).2 ⟨first, hfirst, rfl⟩
    rw [List.append_assoc, List.length_cons, readMany, hread]
    simp only
    rw [h.readMany_writeAll rest hmore]

/-- Where each value is written, so are all. -/
theorem writeAll_ok : ∀ {as : List α}, (∀ a ∈ as, ∃ bytes, write a = .ok bytes) → ∃ bytes, writeAll write as = .ok bytes
  | [], _ => ⟨[], rfl⟩
  | a :: as, h => by
    obtain ⟨bytes, hbytes⟩ := h a List.mem_cons_self
    obtain ⟨more, hmore⟩ := writeAll_ok fun b hb => h b (List.mem_cons_of_mem a hb)
    exact ⟨bytes ++ more, writeAll_cons.2 ⟨bytes, more, hbytes, hmore, rfl⟩⟩

/-- **A read succeeds exactly at a written value.** -/
theorem Exact.reads_iff (h : Exact read write) (s : List β) :
    (∃ a rest, read s = .ok (a, rest)) ↔ ∃ a bytes rest, write a = .ok bytes ∧ s = bytes ++ rest := by
  constructor
  · rintro ⟨a, rest, hread⟩
    obtain ⟨bytes, hwrite, hs⟩ := (h s a rest).1 hread
    exact ⟨a, bytes, rest, hwrite, hs⟩
  · rintro ⟨a, bytes, rest, hwrite, hs⟩
    exact ⟨a, rest, (h s a rest).2 ⟨bytes, hwrite, hs⟩⟩

/-- **No part of a written value reads as a value**, but for the whole of it. -/
theorem Exact.not_ok_of_prefix (h : Exact read write) {a b : α} {p q rest : List β} (hw : write a = .ok (p ++ q))
    (hq : q ≠ []) : read p ≠ .ok (b, rest) := by
  intro hread
  obtain ⟨bytes, hb, rfl⟩ := (h p b rest).1 hread
  have hlong : read (bytes ++ (rest ++ q)) = .ok (b, rest ++ q) := (h _ _ _).2 ⟨bytes, hb, rfl⟩
  have hwhole : read (bytes ++ (rest ++ q)) = .ok (a, []) :=
    (h _ _ _).2 ⟨_, hw, by rw [List.append_nil, List.append_assoc]⟩
  rw [hlong, Except.ok.injEq, Prod.mk.injEq] at hwhole
  exact hq (List.append_eq_nil_iff.1 hwhole.2).2

theorem writeAll_snoc {a : α} {last : List β} : ∀ {as : List α} {bytes : List β},
    writeAll write as = .ok bytes → write a = .ok last → writeAll write (as ++ [a]) = .ok (bytes ++ last)
  | [], _, hw, hlast => by
    cases hw
    simp only [List.nil_append, writeAll, hlast, List.append_nil]
  | b :: as, _, hw, hlast => by
    obtain ⟨first, more, hfirst, hmore, rfl⟩ := writeAll_cons.1 hw
    exact writeAll_cons.2 ⟨first, more ++ last, hfirst, writeAll_snoc hmore hlast, List.append_assoc first more last⟩

end Codec
