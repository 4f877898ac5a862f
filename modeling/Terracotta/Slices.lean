import Terracotta.JsonText
/-!
# Slices of a text by byte index

`&s[i..j]` of a Rust `str` is the text between two byte indices.  It panics where one of them lies past the end or inside
a character, or where they stand the wrong way round.  Nothing here names a particular text.
-/
namespace Text

/-- The two parts of a text at a byte index, if a character ends there. -/
def splitAtByte : List Char → Nat → Option (List Char × List Char)
  | s, 0 => some ([], s)
  | [], _ + 1 => none
  | c :: s, n + 1 =>
    if c.utf8Size ≤ n + 1 then (splitAtByte s (n + 1 - c.utf8Size)).map (fun p => (c :: p.1, p.2)) else none

/-- `&s[i..j]`; `none` is a panic. -/
def slice (s : List Char) (i j : Nat) : Option (List Char) :=
  if j < i then none
  else match splitAtByte s i with
    | none => none
    | some (_, rest) => (splitAtByte rest (j - i)).map Prod.fst

theorem utf8Len_eq_zero {s : List Char} (h : utf8Len s = 0) : s = [] := by
  cases s with
  | nil => rfl
  | cons c s =>
    have := c.utf8Size_pos
    rw [utf8Len_cons] at h
    omega

/-- **A text splits at an index exactly where a prefix has that many bytes.** -/
theorem splitAtByte_eq_some : ∀ {s p q : List Char} {n : Nat}, splitAtByte s n = some (p, q) ↔ s = p ++ q ∧ utf8Len p = n
  | s, p, q, 0 => by
    rw [splitAtByte, Option.some.injEq, Prod.mk.injEq]
    constructor
    · rintro ⟨rfl, rfl⟩
      exact ⟨rfl, rfl⟩
    · rintro ⟨rfl, hlen⟩
      rw [utf8Len_eq_zero hlen]
      exact ⟨rfl, rfl⟩
  | [], p, q, n + 1 => by
    rw [splitAtByte]
    refine ⟨fun h => (by cases h), fun ⟨happ, hlen⟩ => ?_⟩
    obtain ⟨rfl, -⟩ := List.append_eq_nil_iff.1 happ.symm
    cases hlen
  | c :: s, p, q, n + 1 => by
    have hc := c.utf8Size_pos
    unfold splitAtByte
    constructor
    · intro h
      split at h
      · obtain ⟨⟨p', q'⟩, hsplit, hpq⟩ := Option.map_eq_some_iff.1 h
        obtain ⟨rfl, hlen⟩ := splitAtByte_eq_some.1 hsplit
        cases hpq
        refine ⟨rfl, ?_⟩
        rw [utf8Len_cons, hlen]
        omega
      · cases h
    · rintro ⟨happ, hlen⟩
      cases p with
      | nil => cases hlen
      | cons d p =>
        rw [List.cons_append] at happ
        obtain ⟨rfl, rfl⟩ := List.cons.inj happ
        rw [utf8Len_cons] at hlen
        have ih : splitAtByte (p ++ q) (n + 1 - c.utf8Size) = some (p, q) :=
          splitAtByte_eq_some.2 ⟨rfl, by omega⟩
        rw [if_pos (by omega), ih]
        rfl

/-- **What a slice is**: the text between a prefix of `i` bytes and one of `j`. -/
theorem slice_eq_some {s m : List Char} {i j : Nat} :
    slice s i j = some m ↔ ∃ p q, s = p ++ m ++ q ∧ utf8Len p = i ∧ utf8Len p + utf8Len m = j := by
  unfold slice
  constructor
  · intro h
    split at h
    · cases h
    · split at h
      · cases h
      · rename_i hle p rest hfirst
        obtain ⟨⟨m', q⟩, hsecond, rfl⟩ := Option.map_eq_some_iff.1 h
        obtain ⟨rfl, rfl⟩ := splitAtByte_eq_some.1 hfirst
        obtain ⟨rfl, hlen⟩ := splitAtByte_eq_some.1 hsecond
        exact ⟨p, q, (List.append_assoc p m' q).symm, rfl, by simp only; omega⟩
  · rintro ⟨p, q, rfl, rfl, rfl⟩
    have hfirst : splitAtByte (p ++ m ++ q) (utf8Len p) = some (p, m ++ q) :=
      splitAtByte_eq_some.2 ⟨List.append_assoc p m q, rfl⟩
    have hsecond : splitAtByte (m ++ q) (utf8Len p + utf8Len m - utf8Len p) = some (m, q) :=
      splitAtByte_eq_some.2 ⟨rfl, by omega⟩
    rw [if_neg (by omega), hfirst]
    simp only
    rw [hsecond]
    rfl

/-- **Where every character has one byte, the indices count characters.** -/
theorem slice_of_single {s : List Char} (h : ∀ c ∈ s, c.utf8Size = 1) {i j : Nat} (hij : i ≤ j) (hj : j ≤ s.length) :
    slice s i j = some ((s.drop i).take (j - i)) := by
  have hlen : ∀ {t : List Char}, t ⊆ s → utf8Len t = t.length := by
    intro t ht
    induction t with
    | nil => rfl
    | cons c t ih =>
      rw [utf8Len_cons, h c (ht List.mem_cons_self), ih fun x hx => ht (List.mem_cons_of_mem c hx), List.length_cons]
      omega
  refine slice_eq_some.2 ⟨s.take i, (s.drop i).drop (j - i), ?_, ?_, ?_⟩
  · rw [List.append_assoc, List.take_append_drop, List.take_append_drop]
  · rw [hlen (List.take_subset i s), List.length_take]
    omega
  · have hmiddle : (s.drop i).take (j - i) ⊆ s := fun x hx => List.mem_of_mem_drop (List.mem_of_mem_take hx)
    rw [hlen (List.take_subset i s), hlen hmiddle, List.length_take, List.length_take, List.length_drop]
    omega

-- an index inside a character
example : slice ['a', 'é', 'b'] 0 2 = none := by decide

end Text
