import Terracotta.Regex
/-!
# Replacing the matches of a pattern

All matches of a pattern in a text give way to a mark, from left to right.  What comes out is the text with some of its
pieces masked, and this is most of what is used of it.
-/
namespace Regex

/-- A text without `c` lies on one side of each `c`. -/
theorem infix_append_cons {c : Char} {w x y : List Char} (hc : c ∉ w) (h : w <:+: x ++ c :: y) : w <:+: x ∨ w <:+: y := by
  rcases List.infix_append_iff.1 h with h | h | ⟨u, v, rfl, hu, hv⟩
  · exact .inl h
  · rcases List.infix_cons_iff.1 h with h | h
    · rcases List.prefix_cons_iff.1 h with rfl | ⟨t, rfl, -⟩
      · exact .inl List.nil_infix
      · exact absurd List.mem_cons_self hc
    · exact .inr h
  · rcases List.prefix_cons_iff.1 hv with rfl | ⟨t, rfl, -⟩
    · rw [List.append_nil]
      exact .inl hu.isInfix
    · exact absurd (List.mem_append_right u List.mem_cons_self) hc

/-! ## Masked texts -/

/-- `y` is `x` with some of its pieces replaced by `mark`. -/
inductive Masked (mark : List Char) : List Char → List Char → Prop where
  | nil : Masked mark [] []
  | keep (c : Char) {x y : List Char} (h : Masked mark x y) : Masked mark (c :: x) (c :: y)
  | mask {q : List Char} (hq : q ≠ []) {x y : List Char} (h : Masked mark x y) : Masked mark (q ++ x) (mark ++ y)

namespace Masked

variable {mark x y : List Char}

theorem refl : ∀ x : List Char, Masked mark x x
  | [] => .nil
  | c :: x => .keep c (refl x)

theorem append {x' y' : List Char} (h : Masked mark x y) (h' : Masked mark x' y') : Masked mark (x ++ x') (y ++ y') := by
  induction h with
  | nil => exact h'
  | keep c h ih => exact .keep c ih
  | mask hq h ih =>
    rw [List.append_assoc, List.append_assoc]
    exact .mask hq ih

theorem mem {c : Char} (h : Masked mark x y) (hc : c ∈ y) : c ∈ x ∨ c ∈ mark := by
  induction h with
  | nil => cases hc
  | keep d h ih =>
    rcases List.mem_cons.1 hc with rfl | hc
    · exact .inl List.mem_cons_self
    · exact (ih hc).imp_left (List.mem_cons_of_mem d)
  | mask hq h ih =>
    rcases List.mem_append.1 hc with hc | hc
    · exact .inr hc
    · exact (ih hc).imp_left (List.mem_append_right _)

theorem head? (h : Masked mark x y) (hmark : mark ≠ []) : y.head? = x.head? ∨ y.head? = mark.head? := by
  cases h with
  | nil => exact .inl rfl
  | keep c h => exact .inl rfl
  | mask hq h => exact .inr (List.head?_append_of_ne_nil mark hmark)

theorem eq_or_mark_infix (h : Masked mark x y) : y = x ∨ mark <:+: y := by
  induction h with
  | nil => exact .inl rfl
  | keep c h ih => exact ih.imp (congrArg (c :: ·)) List.infix_cons
  | mask hq h ih => exact .inr (List.prefix_append _ _).isInfix

theorem of_nil (h : Masked mark [] y) : y = [] := by
  generalize hx : ([] : List Char) = x at h
  cases h with
  | nil => rfl
  | keep c h => cases hx
  | mask hq h => exact absurd (List.append_eq_nil_iff.1 hx.symm).1 hq

theorem of_singleton {d : Char} (h : Masked mark [d] y) : y = [d] ∨ y = mark := by
  generalize hx : [d] = x at h
  cases h with
  | nil => cases hx
  | keep c h =>
    obtain ⟨rfl, rfl⟩ := List.cons.inj hx
    exact .inl (congrArg (d :: ·) h.of_nil)
  | mask hq h =>
    obtain ⟨c, q, rfl⟩ := List.exists_cons_of_ne_nil hq
    obtain ⟨rfl, htail⟩ := List.cons.inj hx
    obtain ⟨rfl, rfl⟩ := List.append_eq_nil_iff.1 htail.symm
    rw [h.of_nil, List.append_nil]
    exact .inr rfl

/-- How a masked text ends: as the text does, up to a mark for one or both of its last two characters. -/
theorem last_two {a b c d : Char} {x₀ mark₀ : List Char} (h : Masked mark x y) (hmark : mark = mark₀ ++ [a, b])
    (hx : x = x₀ ++ [c, d]) : ∃ y₀ e, y = y₀ ++ e ∧ (e = [c, d] ∨ e = [b, d] ∨ e = [a, b]) := by
  induction h generalizing x₀ with
  | nil => exact absurd hx.symm (by simp)
  | keep k h ih =>
    cases x₀ with
    | nil =>
      obtain ⟨rfl, rfl⟩ := List.cons.inj hx
      rcases h.of_singleton with rfl | rfl
      · exact ⟨[], [k, d], rfl, .inl rfl⟩
      · exact ⟨k :: mark₀, [a, b], congrArg (k :: ·) hmark, .inr (.inr rfl)⟩
    | cons k' x₀ =>
      obtain ⟨y₀, e, rfl, he⟩ := ih (List.cons.inj hx).2
      exact ⟨k :: y₀, e, rfl, he⟩
  | @mask q hq x y h ih =>
    rcases List.append_eq_append_iff.1 hx with ⟨z, hz, rfl⟩ | ⟨z, hz, hlast⟩
    · obtain ⟨y₀, e, rfl, he⟩ := ih rfl
      exact ⟨mark ++ y₀, e, by rw [List.append_assoc], he⟩
    · cases z with
      | nil =>
        have hend : x = [] ++ [c, d] := hlast.symm
        obtain ⟨y₀, e, rfl, he⟩ := ih hend
        exact ⟨mark ++ y₀, e, by rw [List.append_assoc], he⟩
      | cons k z =>
        cases z with
        | nil =>
          obtain ⟨rfl, rfl⟩ := List.cons.inj hlast
          rcases h.of_singleton with rfl | rfl
          · exact ⟨mark₀ ++ [a], [b, d], by rw [hmark]; simp, .inr (.inl rfl)⟩
          · exact ⟨y ++ mark₀, [a, b], by rw [List.append_assoc, ← hmark], .inr (.inr rfl)⟩
        | cons k' z =>
          have hnil : x = [] := by
            have hlength := congrArg List.length hlast
            simp only [List.length_cons, List.length_nil, List.length_append] at hlength
            exact List.eq_nil_of_length_eq_zero (by omega)
          subst hnil
          rw [h.of_nil, List.append_nil]
          exact ⟨mark₀, [a, b], hmark, .inr (.inr rfl)⟩

/-! ### What a masked text contains -/

theorem prefix_of_prefix {l : Char} {tail w : List Char} (h : Masked mark x y) (hmark : mark = l :: tail) (hl : l ∉ w)
    (hw : w <+: y) : w <+: x := by
  induction h generalizing w with
  | nil => exact hw
  | keep c h ih =>
    rcases List.prefix_cons_iff.1 hw with rfl | ⟨w', rfl, hw'⟩
    · exact List.nil_prefix
    · exact List.prefix_cons_inj c |>.2 (ih (fun hmem => hl (List.mem_cons_of_mem c hmem)) hw')
  | mask hq h ih =>
    rw [hmark, List.cons_append] at hw
    rcases List.prefix_cons_iff.1 hw with rfl | ⟨w', rfl, -⟩
    · exact List.nil_prefix
    · exact absurd List.mem_cons_self hl

/-- **A text without the ends of a mark, and longer than what is between them, is in a masked text only where it is in
the text.** -/
theorem infix_of_infix {l r : Char} {inner w : List Char} (h : Masked mark x y) (hmark : mark = l :: (inner ++ [r]))
    (hl : l ∉ w) (hr : r ∉ w) (hlength : inner.length < w.length) (hw : w <:+: y) : w <:+: x := by
  induction h with
  | nil => exact hw
  | keep c h ih =>
    rcases List.infix_cons_iff.1 hw with hw | hw
    · rcases List.prefix_cons_iff.1 hw with rfl | ⟨w', rfl, hw'⟩
      · exact List.nil_infix
      · have hl' : l ∉ w' := fun hmem => hl (List.mem_cons_of_mem c hmem)
        exact ((List.prefix_cons_inj c).2 (h.prefix_of_prefix hmark hl' hw')).isInfix
    · exact List.infix_cons (ih hw)
  | mask hq h ih =>
    have hnot : ∀ z : List Char, z.length ≤ inner.length → ¬ w <:+: z := fun z hz hw => by
      have hle := hw.length_le
      omega
    rw [hmark, ← List.nil_append (_ ++ _), List.cons_append, List.append_assoc] at hw
    rcases infix_append_cons hl hw with hw | hw
    · exact absurd hw (hnot [] (Nat.zero_le _))
    · rcases infix_append_cons hr hw with hw | hw
      · exact absurd hw (hnot inner (Nat.le_refl _))
      · exact List.infix_append_of_infix_right (ih hw)

end Masked

/-! ## Replacement -/

namespace Pattern

section

variable (isWord : Char → Bool) (p : Pattern)

/-- A text up to the end of its last match, each match replaced by its lead and `mark`, and the text behind. -/
def passes (mark : List Char) : Nat → Bool → List Char → List Char × List Char
  | 0, _, s => ([], s)
  | n + 1, before, s =>
    match p.search isWord before s with
    | none => ([], s)
    | some (a, m) =>
      let e := passes mark n (wordLast isWord before (a ++ m.lead ++ m.tail)) m.rest
      (a ++ m.lead ++ mark ++ e.1, e.2)

def done (mark : List Char) (before : Bool) (s : List Char) : List Char := (p.passes isWord mark s.length before s).1

def remainder (mark : List Char) (before : Bool) (s : List Char) : List Char :=
  (p.passes isWord mark s.length before s).2

/-- All matches replaced. -/
def replace (mark : List Char) (before : Bool) (s : List Char) : List Char :=
  p.done isWord mark before s ++ p.remainder isWord mark before s

end

variable {isWord : Char → Bool} {p : Pattern} {mark : List Char} {before : Bool} {s : List Char}

theorem passes_nil (hwidth : 0 < p.width) (n : Nat) : p.passes isWord mark n before [] = ([], []) := by
  cases n with
  | zero => rfl
  | succ n => rw [passes, search, matchAt_nil hwidth, Option.map_none]

theorem passes_fuel (hwidth : 0 < p.width) {n k : Nat} (hn : s.length ≤ n) (hk : s.length ≤ k) :
    p.passes isWord mark n before s = p.passes isWord mark k before s := by
  induction n generalizing k before s with
  | zero =>
    cases List.eq_nil_of_length_eq_zero (Nat.le_zero.1 hn)
    rw [passes_nil hwidth, passes_nil hwidth]
  | succ n ih =>
    cases k with
    | zero =>
      cases List.eq_nil_of_length_eq_zero (Nat.le_zero.1 hk)
      rw [passes_nil hwidth, passes_nil hwidth]
    | succ k =>
      unfold passes
      cases hsearch : p.search isWord before s with
      | none => rfl
      | some e =>
        obtain ⟨a, m⟩ := e
        obtain ⟨happend, hm, -⟩ := search_eq_some.1 hsearch
        have hlt := rest_lt hwidth hm
        have hlength := congrArg List.length happend
        rw [List.length_append] at hlength
        dsimp only
        rw [ih (by omega : m.rest.length ≤ n) (by omega : m.rest.length ≤ k)]

theorem passes_none (mark : List Char) (h : p.search isWord before s = none) :
    p.done isWord mark before s = [] ∧ p.remainder isWord mark before s = s := by
  unfold done remainder
  cases hlength : s.length with
  | zero => exact ⟨rfl, rfl⟩
  | succ n =>
    rw [passes, h]
    exact ⟨rfl, rfl⟩

theorem passes_some (mark : List Char) {a : List Char} {m : Found} (hwidth : 0 < p.width) (h : p.search isWord before s = some (a, m)) :
    p.done isWord mark before s =
        a ++ m.lead ++ mark ++ p.done isWord mark (wordLast isWord before (a ++ m.lead ++ m.tail)) m.rest ∧
      p.remainder isWord mark before s =
        p.remainder isWord mark (wordLast isWord before (a ++ m.lead ++ m.tail)) m.rest := by
  obtain ⟨happend, hm, -⟩ := search_eq_some.1 h
  have hlt := rest_lt hwidth hm
  have hlength := congrArg List.length happend
  rw [List.length_append] at hlength
  have hunfold : p.passes isWord mark s.length before s = p.passes isWord mark (m.rest.length + 1) before s := by
    obtain ⟨n, hn⟩ : ∃ n, s.length = n + 1 := ⟨s.length - 1, by omega⟩
    rw [hn, passes, passes, h]
    dsimp only
    rw [passes_fuel hwidth (by omega) (Nat.le_refl m.rest.length)]
  unfold done remainder
  rw [hunfold, passes, h]
  exact ⟨rfl, rfl⟩

theorem replace_none (h : p.search isWord before s = none) : p.replace isWord mark before s = s := by
  unfold replace
  rw [(passes_none mark h).1, (passes_none mark h).2, List.nil_append]

theorem replace_some {a : List Char} {m : Found} (hwidth : 0 < p.width) (h : p.search isWord before s = some (a, m)) :
    p.replace isWord mark before s =
      a ++ m.lead ++ mark ++ p.replace isWord mark (wordLast isWord before (a ++ m.lead ++ m.tail)) m.rest := by
  unfold replace
  rw [(passes_some mark hwidth h).1, (passes_some mark hwidth h).2, List.append_assoc]

/-- Induction on the matches of a text, from the last one. -/
theorem search_induction (isWord : Char → Bool) {motive : Bool → List Char → Prop} (hwidth : 0 < p.width)
    (none : ∀ before s, p.search isWord before s = none → motive before s)
    (some : ∀ before s a m, p.search isWord before s = some (a, m) →
      motive (wordLast isWord before (a ++ m.lead ++ m.tail)) m.rest → motive before s)
    (before : Bool) (s : List Char) : motive before s := by
  induction hn : s.length using Nat.strong_induction_on generalizing before s with
  | _ n ih =>
    cases hsearch : p.search isWord before s with
    | none => exact none before s hsearch
    | some e =>
      obtain ⟨a, m⟩ := e
      obtain ⟨happend, hm, -⟩ := search_eq_some.1 hsearch
      have hlt := rest_lt hwidth hm
      have hlength := congrArg List.length happend
      rw [List.length_append] at hlength
      exact some before s a m hsearch (ih m.rest.length (by omega) _ m.rest rfl)

theorem replace_append {t : List Char} (hwidth : 0 < p.width)
    (h : ∀ before u, u <:+ s → u ≠ [] →
      p.matchAt isWord before (u ++ t) = (p.matchAt isWord before u).map (Found.extend t)) :
    p.replace isWord mark before (s ++ t) =
      p.replace isWord mark before s ++ p.replace isWord mark (wordLast isWord before s) t := by
  induction before, s using search_induction isWord hwidth with
  | none before s hsearch =>
    have hboth := search_append_of_local before hwidth h
    rw [hsearch] at hboth
    dsimp only at hboth
    rw [replace_none hsearch]
    cases hbehind : p.search isWord (wordLast isWord before s) t with
    | none =>
      rw [hbehind, Option.map_none] at hboth
      rw [replace_none hboth, replace_none hbehind]
    | some e =>
      rw [hbehind, Option.map_some] at hboth
      rw [replace_some hwidth hboth, replace_some hwidth hbehind]
      simp only [List.append_assoc, wordLast, List.foldl_append]
  | some before s a m hsearch ih =>
    have hboth := search_append_of_local before hwidth h
    rw [hsearch] at hboth
    obtain ⟨happend, -, -⟩ := search_eq_some.1 hsearch
    have hsuffix : m.rest <:+ s := ⟨a ++ m.lead ++ m.tail, by simp only [happend, List.append_assoc]⟩
    have hrest := ih fun before u hu => h before u (hu.trans hsuffix)
    have hlast : wordLast isWord (wordLast isWord before (a ++ m.lead ++ m.tail)) m.rest = wordLast isWord before s := by
      rw [happend]
      simp only [wordLast, List.foldl_append]
    rw [hlast] at hrest
    rw [replace_some hwidth hboth, replace_some hwidth hsearch]
    simp only [Found.extend, List.append_assoc] at hrest ⊢
    rw [hrest]

/-- Where no match starts in `x`, the matches are those behind it. -/
theorem replace_append_of_none (mark : List Char) (before : Bool) {x : List Char} (hwidth : 0 < p.width)
    (hx : ∀ before u, u <:+ x → u ≠ [] → p.matchAt isWord before (u ++ s) = none) :
    p.replace isWord mark before (x ++ s) = x ++ p.replace isWord mark (wordLast isWord before x) s := by
  induction x generalizing before with
  | nil => rfl
  | cons c x ih =>
    have hfirst := hx before (c :: x) (List.suffix_refl _) (List.cons_ne_nil c x)
    have hrest := ih (isWord c) fun before u hu => hx before u (hu.trans (List.suffix_cons c x))
    have hlast : wordLast isWord before (c :: x) = wordLast isWord (isWord c) x := rfl
    rw [List.cons_append] at hfirst ⊢
    rw [hlast, List.cons_append, ← hrest]
    cases hsearch : p.search isWord (isWord c) (x ++ s) with
    | none => rw [replace_none hsearch, replace_none (by rw [search, hfirst, hsearch]; rfl)]
    | some e =>
      obtain ⟨a, m⟩ := e
      have hboth : p.search isWord before (c :: (x ++ s)) = some (c :: a, m) := by rw [search, hfirst, hsearch]; rfl
      rw [replace_some hwidth hsearch, replace_some hwidth hboth]
      rfl

theorem replace_append_of_starts {x : List Char} (hwidth : 0 < p.width) (hx : ∀ c ∈ x, p.starts c = false) :
    p.replace isWord mark before (x ++ s) = x ++ p.replace isWord mark (wordLast isWord before x) s := by
  refine replace_append_of_none mark before hwidth fun before u hu hne => ?_
  obtain ⟨c, u, rfl⟩ := List.exists_cons_of_ne_nil hne
  exact matchAt_eq_none (hx c (hu.subset List.mem_cons_self)) hwidth

/-- What is done masks all of a text but its remainder. -/
theorem masked_done (p : Pattern) (isWord : Char → Bool) (mark : List Char) (before : Bool) (s : List Char)
    (htail : 0 < p.tail.width) :
    ∃ z, s = z ++ p.remainder isWord mark before s ∧ Masked mark z (p.done isWord mark before s) := by
  have hwidth : 0 < p.width := Nat.add_pos_right _ htail
  induction before, s using search_induction isWord hwidth with
  | none before s hsearch =>
    obtain ⟨hdone, hremainder⟩ := passes_none mark hsearch
    exact ⟨[], by rw [hremainder, List.nil_append], by rw [hdone]; exact .nil⟩
  | some before s a m hsearch ih =>
    obtain ⟨hdone, hremainder⟩ := passes_some mark hwidth hsearch
    obtain ⟨happend, hm, -⟩ := search_eq_some.1 hsearch
    obtain ⟨z, hz, hmasked⟩ := ih
    have hne : m.tail ≠ [] :=
      List.length_pos_iff.1 (htail.trans_le (width_le isWord (mem_of_matchAt hm).2))
    refine ⟨a ++ m.lead ++ (m.tail ++ z), ?_, ?_⟩
    · rw [hremainder]
      conv_lhs => rw [happend, hz]
      simp only [List.append_assoc]
    · rw [hdone, List.append_assoc _ mark]
      exact (Masked.refl _).append (.mask hne hmasked)

theorem masked_replace (p : Pattern) (isWord : Char → Bool) (mark : List Char) (before : Bool) (s : List Char)
    (htail : 0 < p.tail.width) : Masked mark s (p.replace isWord mark before s) := by
  obtain ⟨z, hz, hmasked⟩ := p.masked_done isWord mark before s htail
  conv_lhs => rw [hz]
  exact hmasked.append (Masked.refl _)

end Pattern

end Regex
