import Mathlib
/-!
# Regular expressions that backtrack

What an expression matches, in the order a backtracking matcher tries it, and the leftmost match of a pattern.  A
repetition is of one class of characters.
-/
namespace Regex

inductive Node where
  | eps
  | one (p : Char → Bool)
  | bound -- `\b`
  | seq (a b : Node)
  | alt (a b : Node)
  | rep (p : Char → Bool) (least : Nat) (most : Option Nat) (isLazy : Bool)

/-- What `IgnoreCase` makes one of, among the characters that an ASCII pattern may stand for. -/
def foldCase (c : Char) : Char := if c = '\u212A' then 'k' else c.toLower

/-- A word, up to `fold`. -/
def word (fold : Char → Char) : List Char → Node
  | [] => .eps
  | c :: w => .seq (.one fun d => fold d == fold c) (word fold w)

section

variable (isWord : Char → Bool)

/-- Whether a word character is last, where `x` is read behind another that is or is not. -/
def wordLast (before : Bool) (x : List Char) : Bool := x.foldl (fun _ c => isWord c) before

/-- What a repetition takes and leaves, the shortest first. -/
def splits (p : Char → Bool) (least : Nat) (most : Option Nat) (s : List Char) : List (List Char × List Char) :=
  let longest := match most with
    | none => (s.takeWhile p).length
    | some n => min n (s.takeWhile p).length
  ((List.range (longest + 1)).filter (least ≤ ·)).map fun k => (s.take k, s.drop k)

/-- What an expression takes and leaves, in the order of a matcher that backtracks. -/
def Node.ends : Node → Bool → List Char → List (List Char × List Char)
  | .eps, _, s => [([], s)]
  | .one _, _, [] => []
  | .one p, _, c :: s => if p c then [([c], s)] else []
  | .bound, before, s => if before != s.head?.any isWord then [([], s)] else []
  | .seq a b, before, s => (a.ends before s).flatMap fun e =>
      (b.ends (wordLast isWord before e.1) e.2).map fun e' => (e.1 ++ e'.1, e'.2)
  | .alt a b, before, s => a.ends before s ++ b.ends before s
  | .rep p least most isLazy, _, s =>
    if isLazy then splits p least most s else (splits p least most s).reverse

theorem ends_one_nil {p : Char → Bool} {before : Bool} : (Node.one p).ends isWord before [] = [] := rfl

theorem ends_one_cons {p : Char → Bool} {before : Bool} {c : Char} {s : List Char} :
    (Node.one p).ends isWord before (c :: s) = if p c then [([c], s)] else [] := rfl

theorem ends_bound {before : Bool} {s : List Char} :
    Node.bound.ends isWord before s = if before != s.head?.any isWord then [([], s)] else [] := rfl

theorem ends_seq {a b : Node} {before : Bool} {s : List Char} :
    (Node.seq a b).ends isWord before s = (a.ends isWord before s).flatMap fun e =>
      (b.ends isWord (wordLast isWord before e.1) e.2).map fun e' => (e.1 ++ e'.1, e'.2) := rfl

theorem ends_alt {a b : Node} {before : Bool} {s : List Char} :
    (Node.alt a b).ends isWord before s = a.ends isWord before s ++ b.ends isWord before s := rfl

theorem ends_rep {p : Char → Bool} {least : Nat} {most : Option Nat} {isLazy before : Bool} {s : List Char} :
    (Node.rep p least most isLazy).ends isWord before s =
      if isLazy then splits p least most s else (splits p least most s).reverse := rfl

theorem mem_splits {p : Char → Bool} {least : Nat} {most : Option Nat} {s : List Char} {e : List Char × List Char}
    (h : e ∈ splits p least most s) :
    e.1 ++ e.2 = s ∧ least ≤ e.1.length ∧ (∀ n, most = some n → e.1.length ≤ n) ∧ ∀ c ∈ e.1, p c = true := by
  obtain ⟨k, hk, rfl⟩ := List.mem_map.1 h
  obtain ⟨hrange, hleast⟩ := List.mem_filter.1 hk
  have hrun : k ≤ (s.takeWhile p).length ∧ ∀ n, most = some n → k ≤ n := by
    cases most with
    | none => exact ⟨Nat.le_of_lt_succ (List.mem_range.1 hrange), nofun⟩
    | some n =>
      have hmin := Nat.le_of_lt_succ (List.mem_range.1 hrange)
      exact ⟨hmin.trans (Nat.min_le_right _ _), fun m hm => by cases hm; exact hmin.trans (Nat.min_le_left _ _)⟩
  have hlength : k ≤ s.length := hrun.1.trans (List.takeWhile_prefix p).length_le
  refine ⟨List.take_append_drop k s, ?_, fun n hn => ?_, fun c hc => ?_⟩
  · rw [List.length_take_of_le hlength]
    exact of_decide_eq_true hleast
  · rw [List.length_take_of_le hlength]
    exact hrun.2 n hn
  · have htake : s.take k = (s.takeWhile p).take k := by
      conv_lhs => rw [← List.takeWhile_append_dropWhile (p := p) (l := s)]
      exact List.take_append_of_le_length hrun.1
    rw [htake] at hc
    exact List.mem_takeWhile_imp (List.mem_of_mem_take hc)

theorem mem_splits_of_all {p : Char → Bool} {x y : List Char} (h : ∀ c ∈ x, p c = true) :
    (x, y) ∈ splits p 0 none (x ++ y) := by
  have hrun : x.length ≤ ((x ++ y).takeWhile p).length := by
    rw [List.takeWhile_append_of_pos h, List.length_append]
    exact Nat.le_add_right _ _
  refine List.mem_map.2 ⟨x.length, List.mem_filter.2 ⟨List.mem_range.2 (Nat.lt_succ_of_le hrun), rfl⟩, ?_⟩
  rw [List.take_left, List.drop_left]

/-- A greedy repetition takes first all that it can. -/
theorem head?_splits_reverse {p : Char → Bool} {least n : Nat} {s : List Char}
    (h : least ≤ min n (s.takeWhile p).length) :
    (splits p least (some n) s).reverse.head? =
      some (s.take (min n (s.takeWhile p).length), s.drop (min n (s.takeWhile p).length)) := by
  unfold splits
  dsimp only
  rw [List.head?_reverse, List.range_succ, List.filter_append, List.filter_singleton, decide_eq_true h]
  simp

theorem mem_ends_rep {p : Char → Bool} {least : Nat} {most : Option Nat} {isLazy before : Bool} {s : List Char}
    {e : List Char × List Char} :
    e ∈ (Node.rep p least most isLazy).ends isWord before s ↔ e ∈ splits p least most s := by
  cases isLazy <;> simp [ends_rep]

theorem splits_pairwise (p : Char → Bool) (least : Nat) (s : List Char) :
    (splits p least none s).Pairwise fun e e' => e.1.length < e'.1.length := by
  refine List.pairwise_map.2 (List.Pairwise.imp_of_mem ?_ (List.Pairwise.filter _ List.pairwise_lt_range))
  intro k n hk hn hlt
  have hle : ∀ i ∈ (List.range ((s.takeWhile p).length + 1)).filter (least ≤ ·), i ≤ s.length := fun i hi =>
    (Nat.le_of_lt_succ (List.mem_range.1 (List.mem_filter.1 hi).1)).trans (List.takeWhile_prefix p).length_le
  dsimp only
  rw [List.length_take_of_le (hle k hk), List.length_take_of_le (hle n hn)]
  exact hlt

theorem mem_ends_seq {a b : Node} {before : Bool} {s : List Char} {e : List Char × List Char} :
    e ∈ (Node.seq a b).ends isWord before s ↔ ∃ x ∈ a.ends isWord before s,
      ∃ y ∈ b.ends isWord (wordLast isWord before x.1) x.2, (x.1 ++ y.1, y.2) = e := by
  simp only [ends_seq, List.mem_flatMap, List.mem_map]

theorem ends_append {n : Node} {before : Bool} {s : List Char} {e : List Char × List Char}
    (h : e ∈ n.ends isWord before s) : e.1 ++ e.2 = s := by
  induction n generalizing before s e with
  | eps => cases List.mem_singleton.1 h; rfl
  | one p =>
    cases s with
    | nil => cases h
    | cons c s =>
      simp only [ends_one_cons] at h
      split at h
      · cases List.mem_singleton.1 h; rfl
      · cases h
  | bound =>
    simp only [ends_bound] at h
    split at h
    · cases List.mem_singleton.1 h; rfl
    · cases h
  | seq a b iha ihb =>
    obtain ⟨x, hx, y, hy, rfl⟩ := (mem_ends_seq isWord).1 h
    rw [List.append_assoc, ihb hy, iha hx]
  | alt a b iha ihb => exact (List.mem_append.1 h).elim iha ihb
  | rep p least most isLazy => exact (mem_splits ((mem_ends_rep isWord).1 h)).1

theorem ends_suffix {n : Node} {before : Bool} {s : List Char} {e : List Char × List Char}
    (h : e ∈ n.ends isWord before s) : e.2 <:+ s := ⟨e.1, ends_append isWord h⟩

theorem mem_ends_word_of_map {fold : Char → Char} {w x : List Char} (before : Bool) (y : List Char)
    (h : x.map fold = w.map fold) : (x, y) ∈ (word fold w).ends isWord before (x ++ y) := by
  induction w generalizing before x with
  | nil =>
    cases List.map_eq_nil_iff.1 h
    exact List.mem_singleton_self _
  | cons c w ih =>
    cases x with
    | nil => cases h
    | cons d x =>
      obtain ⟨hd, hx⟩ := List.cons.inj h
      refine (mem_ends_seq isWord).2 ⟨([d], x ++ y), ?_, (x, y), ih _ hx, rfl⟩
      simp only [ends_one_cons, List.cons_append, hd, beq_self_eq_true, if_true]
      exact List.mem_singleton_self _

theorem mem_ends_word {fold : Char → Char} {w s : List Char} {before : Bool} {e : List Char × List Char}
    (h : e ∈ (word fold w).ends isWord before s) : e.1.map fold = w.map fold := by
  induction w generalizing before s e with
  | nil => cases List.mem_singleton.1 h; rfl
  | cons c w ih =>
    obtain ⟨x, hx, y, hy, rfl⟩ := (mem_ends_seq isWord).1 h
    cases s with
    | nil => cases hx
    | cons d s =>
      simp only [ends_one_cons] at hx
      split at hx
      · rename_i hc
        cases List.mem_singleton.1 hx
        simp only [List.singleton_append, List.map_cons, ih hy, beq_iff_eq.1 hc]
      · cases hx

/-! ## How long a match is, and how it starts -/

/-- The least a match takes. -/
def Node.width : Node → Nat
  | .eps | .bound => 0
  | .one _ => 1
  | .seq a b => a.width + b.width
  | .alt a b => min a.width b.width
  | .rep _ least _ _ => least

/-- Whether a match may start with a character. -/
def Node.starts : Node → Char → Bool
  | .eps, _ | .bound, _ => false
  | .one p, c | .rep p _ _ _, c => p c
  | .seq a b, c => a.starts c || a.width == 0 && b.starts c
  | .alt a b, c => a.starts c || b.starts c

theorem width_le {n : Node} {before : Bool} {s : List Char} {e : List Char × List Char}
    (h : e ∈ n.ends isWord before s) : n.width ≤ e.1.length := by
  induction n generalizing before s e with
  | eps | bound => exact Nat.zero_le _
  | one p =>
    cases s with
    | nil => cases h
    | cons c s =>
      simp only [ends_one_cons] at h
      split at h
      · cases List.mem_singleton.1 h; exact Nat.le_refl 1
      · cases h
  | seq a b iha ihb =>
    obtain ⟨x, hx, y, hy, rfl⟩ := (mem_ends_seq isWord).1 h
    have hleft := iha hx
    have hright := ihb hy
    simp only [Node.width, List.length_append]
    omega
  | alt a b iha ihb =>
    rcases List.mem_append.1 h with h | h
    · exact (Nat.min_le_left _ _).trans (iha h)
    · exact (Nat.min_le_right _ _).trans (ihb h)
  | rep p least most isLazy => exact (mem_splits ((mem_ends_rep isWord).1 h)).2.1

theorem starts_of_mem {n : Node} {before : Bool} {c : Char} {s : List Char} {e : List Char × List Char}
    (h : e ∈ n.ends isWord before (c :: s)) (hne : e.1 ≠ []) : n.starts c = true := by
  induction n generalizing before e with
  | eps => exact absurd (congrArg Prod.fst (List.mem_singleton.1 h)) hne
  | one p =>
    simp only [ends_one_cons] at h
    split at h
    · assumption
    · cases h
  | bound =>
    simp only [ends_bound] at h
    split at h
    · exact absurd (congrArg Prod.fst (List.mem_singleton.1 h)) hne
    · cases h
  | seq a b iha ihb =>
    obtain ⟨x, hx, y, hy, rfl⟩ := (mem_ends_seq isWord).1 h
    simp only [Node.starts, Bool.or_eq_true, Bool.and_eq_true, beq_iff_eq]
    by_cases hempty : x.1 = []
    · have hrest : x.2 = c :: s := by rw [← ends_append isWord hx, hempty, List.nil_append]
      have hwidth := width_le isWord hx
      rw [hempty] at hwidth
      rw [hrest] at hy
      exact .inr ⟨Nat.le_zero.1 hwidth, ihb hy (by simpa [hempty] using hne)⟩
    · exact .inl (iha hx hempty)
  | alt a b iha ihb =>
    simp only [Node.starts, Bool.or_eq_true]
    exact (List.mem_append.1 h).imp (iha · hne) (ihb · hne)
  | rep p least most isLazy =>
    obtain ⟨happend, -, -, hall⟩ := mem_splits ((mem_ends_rep isWord).1 h)
    obtain ⟨d, x, hx⟩ := List.exists_cons_of_ne_nil hne
    rw [hx, List.cons_append] at happend
    rw [← (List.cons.inj happend).1]
    exact hall d (by rw [hx]; exact List.mem_cons_self)

/-! ## Matches that do not see what is behind the text -/

/-- Behind `s`, a text `t` changes nothing but the rests. -/
def Node.Local (n : Node) (before : Bool) (s t : List Char) : Prop :=
  n.ends isWord before (s ++ t) = (n.ends isWord before s).map fun e => (e.1, e.2 ++ t)

/-- No part of an expression takes a character. -/
def Node.avoids (c : Char) : Node → Bool
  | .eps | .bound => true
  | .one p | .rep p _ _ _ => !p c
  | .seq a b | .alt a b => a.avoids c && b.avoids c

variable {isWord}

theorem Node.Local.seq {a b : Node} {before : Bool} {s t : List Char} (ha : a.Local isWord before s t)
    (hb : ∀ e ∈ a.ends isWord before s, b.Local isWord (wordLast isWord before e.1) e.2 t) :
    (Node.seq a b).Local isWord before s t := by
  unfold Node.Local at ha ⊢
  simp only [ends_seq]
  rw [ha, List.flatMap_map, List.map_flatMap]
  refine List.flatMap_congr fun e he => ?_
  rw [hb e he, List.map_map, List.map_map]
  rfl

theorem Node.Local.alt {a b : Node} {before : Bool} {s t : List Char} (ha : a.Local isWord before s t)
    (hb : b.Local isWord before s t) : (Node.alt a b).Local isWord before s t := by
  unfold Node.Local at ha hb ⊢
  simp only [ends_alt, List.map_append]
  rw [ha, hb]

theorem takeWhile_append_stop {p : Char → Bool} {s t : List Char}
    (h : (∃ c ∈ s, p c = false) ∨ ∀ c, t.head? = some c → p c = false) :
    (s ++ t).takeWhile p = s.takeWhile p := by
  induction s with
  | nil =>
    cases t with
    | nil => rfl
    | cons c t => exact List.takeWhile_cons_of_neg (by simpa using h)
  | cons d s ih =>
    rw [List.cons_append, List.takeWhile_cons, List.takeWhile_cons]
    split
    · rename_i hd
      rw [ih]
      refine h.imp_left fun ⟨c, hc, hp⟩ => ?_
      rcases List.mem_cons.1 hc with rfl | hc
      · rw [hd] at hp; cases hp
      · exact ⟨c, hc, hp⟩
    · rfl

theorem Node.Local.rep {p : Char → Bool} {least : Nat} {most : Option Nat} {isLazy before : Bool} {s t : List Char}
    (h : (∃ c ∈ s, p c = false) ∨ ∀ c, t.head? = some c → p c = false) :
    (Node.rep p least most isLazy).Local isWord before s t := by
  have hsplits : splits p least most (s ++ t) = (splits p least most s).map fun e => (e.1, e.2 ++ t) := by
    unfold splits
    rw [takeWhile_append_stop h, List.map_map]
    refine List.map_congr_left fun k hk => ?_
    have hrun : k ≤ (s.takeWhile p).length := by
      have hk := Nat.le_of_lt_succ (List.mem_range.1 (List.mem_filter.1 hk).1)
      cases most with
      | none => exact hk
      | some n => exact hk.trans (Nat.min_le_right _ _)
    have hlength : k ≤ s.length := hrun.trans (List.takeWhile_prefix p).length_le
    simp only [Function.comp_apply, List.take_append_of_le_length hlength, List.drop_append_of_le_length hlength]
  unfold Node.Local
  cases isLazy with
  | true => exact hsplits
  | false =>
    simp only [ends_rep, Bool.false_eq_true, if_false]
    rw [hsplits, List.map_reverse]

theorem Node.Local.of_avoids {n : Node} {c : Char} (h : n.avoids c = true) (hc : isWord c = false) (before : Bool)
    (s t : List Char) : n.Local isWord before s (c :: t) := by
  induction n generalizing before s with
  | eps => rfl
  | one p =>
    have hp : p c = false := by simpa [Node.avoids] using h
    cases s with
    | nil => simp [Node.Local, ends_one_nil, ends_one_cons, hp]
    | cons d s =>
      simp only [Node.Local, ends_one_cons, List.cons_append]
      split <;> rfl
  | bound =>
    have hhead : (s ++ c :: t).head?.any isWord = s.head?.any isWord := by
      cases s with
      | nil => exact hc
      | cons d s => rfl
    simp only [Node.Local, ends_bound, hhead]
    split <;> rfl
  | seq a b iha ihb =>
    obtain ⟨ha, hb⟩ := Bool.and_eq_true_iff.1 h
    exact .seq (iha ha before s) fun e _ => ihb hb _ e.2
  | alt a b iha ihb =>
    obtain ⟨ha, hb⟩ := Bool.and_eq_true_iff.1 h
    exact .alt (iha ha before s) (ihb hb before s)
  | rep p least most isLazy =>
    refine .rep (.inr fun d hd => ?_)
    cases hd
    simpa [Node.avoids] using h

end

/-! ## Patterns -/

/-- A pattern of two parts, one of which is a group. -/
structure Pattern where
  lead : Node
  tail : Node

structure Found where
  lead : List Char
  tail : List Char
  rest : List Char
deriving DecidableEq

def Found.extend (t : List Char) (m : Found) : Found := { m with rest := m.rest ++ t }

namespace Pattern

def width (p : Pattern) : Nat := p.lead.width + p.tail.width

def starts (p : Pattern) (c : Char) : Bool := (Node.seq p.lead p.tail).starts c

section

variable (isWord : Char → Bool) (p : Pattern)

def matchAt (before : Bool) (s : List Char) : Option Found :=
  ((p.lead.ends isWord before s).flatMap fun e =>
    (p.tail.ends isWord (wordLast isWord before e.1) e.2).map fun e' => (⟨e.1, e'.1, e'.2⟩ : Found)).head?

/-- The leftmost match, with what is in front of it. -/
def search (before : Bool) : List Char → Option (List Char × Found)
  | [] => (p.matchAt isWord before []).map fun m => ([], m)
  | c :: s =>
    match p.matchAt isWord before (c :: s) with
    | some m => some ([], m)
    | none => (search (isWord c) s).map fun e => (c :: e.1, e.2)

end

variable {isWord : Char → Bool} {p : Pattern} {before : Bool} {s : List Char}

/-! ### One match -/

theorem mem_of_matchAt {m : Found} (h : p.matchAt isWord before s = some m) :
    (m.lead, m.tail ++ m.rest) ∈ p.lead.ends isWord before s ∧
      (m.tail, m.rest) ∈ p.tail.ends isWord (wordLast isWord before m.lead) (m.tail ++ m.rest) := by
  obtain ⟨e, he, hm⟩ := List.mem_flatMap.1 (List.mem_of_head? h)
  obtain ⟨e', he', rfl⟩ := List.mem_map.1 hm
  have hsplit := ends_append isWord he'
  dsimp only
  rw [hsplit]
  exact ⟨he, he'⟩

theorem findSome?_of_unique {α β : Type} [DecidableEq α] {f : α → Option β} {a : α} {l : List α} (ha : a ∈ l)
    (h : ∀ b ∈ l, b ≠ a → f b = none) : l.findSome? f = f a := by
  induction l with
  | nil => cases ha
  | cons d l ih =>
    have htail : ∀ b ∈ l, b ≠ a → f b = none := fun b hb => h b (List.mem_cons_of_mem d hb)
    rw [List.findSome?_cons]
    by_cases hd : d = a
    · subst hd
      cases hhead : f d with
      | some y => rfl
      | none =>
        refine List.findSome?_eq_none_iff.2 fun b hb => ?_
        by_cases hne : b = d
        · rw [hne]
          exact hhead
        · exact htail b hb hne
    · rw [h d List.mem_cons_self hd]
      exact ih ((List.mem_cons.1 ha).resolve_left (Ne.symm hd)) htail

/-- Where one lead alone can be gone on from, the match is of that lead. -/
theorem matchAt_of_unique {e : List Char × List Char} (he : e ∈ p.lead.ends isWord before s)
    (h : ∀ e' ∈ p.lead.ends isWord before s, e' ≠ e → p.tail.ends isWord (wordLast isWord before e'.1) e'.2 = []) :
    p.matchAt isWord before s =
      (p.tail.ends isWord (wordLast isWord before e.1) e.2).head?.map fun e' => ⟨e.1, e'.1, e'.2⟩ := by
  unfold matchAt
  rw [List.head?_flatMap, ← List.head?_map]
  exact findSome?_of_unique he fun e' he' hne => by rw [h e' he' hne]; rfl

theorem matchAt_append {m : Found} (h : p.matchAt isWord before s = some m) : m.lead ++ (m.tail ++ m.rest) = s :=
  ends_append isWord (mem_of_matchAt h).1

theorem matchAt_mem {m : Found} (h : p.matchAt isWord before s = some m) :
    (m.lead ++ m.tail, m.rest) ∈ (Node.seq p.lead p.tail).ends isWord before s := by
  obtain ⟨hlead, htail⟩ := mem_of_matchAt h
  exact (mem_ends_seq isWord).2 ⟨_, hlead, _, htail, rfl⟩

theorem width_le_matchAt {m : Found} (h : p.matchAt isWord before s = some m) :
    p.width ≤ (m.lead ++ m.tail).length := width_le isWord (matchAt_mem h)

theorem matchAt_eq_none {c : Char} (hstarts : p.starts c = false) (hwidth : 0 < p.width) :
    p.matchAt isWord before (c :: s) = none := by
  cases h : p.matchAt isWord before (c :: s) with
  | none => rfl
  | some m =>
    have hne : m.lead ++ m.tail ≠ [] := List.length_pos_iff.1 (hwidth.trans_le (width_le_matchAt h))
    have hstart : p.starts c = true := starts_of_mem isWord (matchAt_mem h) hne
    rw [hstarts] at hstart
    cases hstart

theorem matchAt_nil (hwidth : 0 < p.width) : p.matchAt isWord before [] = none := by
  cases h : p.matchAt isWord before [] with
  | none => rfl
  | some m =>
    have hlength := congrArg List.length (matchAt_append h)
    have hle := width_le_matchAt h
    simp only [List.length_append, List.length_nil] at hlength hle
    omega

theorem rest_lt {m : Found} (hwidth : 0 < p.width) (h : p.matchAt isWord before s = some m) :
    m.rest.length < s.length := by
  have hle := width_le_matchAt h
  rw [← matchAt_append h]
  simp only [List.length_append] at hle ⊢
  omega

theorem matchAt_local {t : List Char} (hlead : p.lead.Local isWord before s t)
    (htail : ∀ e ∈ p.lead.ends isWord before s, p.tail.Local isWord (wordLast isWord before e.1) e.2 t) :
    p.matchAt isWord before (s ++ t) = (p.matchAt isWord before s).map (Found.extend t) := by
  unfold Node.Local at hlead
  unfold matchAt
  rw [hlead, List.flatMap_map, ← List.head?_map, List.map_flatMap]
  refine congrArg List.head? (List.flatMap_congr fun e he => ?_)
  have hend := htail e he
  unfold Node.Local at hend
  rw [hend, List.map_map, List.map_map]
  rfl

/-! ### The leftmost match -/

theorem search_eq_some {a : List Char} {m : Found} : p.search isWord before s = some (a, m) ↔
    s = a ++ (m.lead ++ (m.tail ++ m.rest)) ∧
      p.matchAt isWord (wordLast isWord before a) (m.lead ++ (m.tail ++ m.rest)) = some m ∧
      ∀ b c, a = b ++ c → c ≠ [] →
        p.matchAt isWord (wordLast isWord before b) (c ++ (m.lead ++ (m.tail ++ m.rest))) = none := by
  induction s generalizing before a with
  | nil =>
    simp only [search, Option.map_eq_some_iff, Prod.mk.injEq]
    constructor
    · rintro ⟨m, hm, rfl, rfl⟩
      have happend := matchAt_append hm
      exact ⟨happend.symm, by rw [happend]; exact hm, fun b c hbc hc => absurd (List.append_eq_nil_iff.1 hbc.symm).2 hc⟩
    · rintro ⟨happend, hm, -⟩
      obtain ⟨rfl, hrest⟩ := List.append_eq_nil_iff.1 happend.symm
      rw [hrest] at hm
      exact ⟨m, hm, rfl, rfl⟩
  | cons d s ih =>
    unfold search
    cases hfirst : p.matchAt isWord before (d :: s) with
    | some m' =>
      simp only [Option.some.injEq, Prod.mk.injEq]
      constructor
      · rintro ⟨rfl, rfl⟩
        have happend := matchAt_append hfirst
        exact ⟨happend.symm, by rw [happend]; exact hfirst,
          fun b c hbc hc => absurd (List.append_eq_nil_iff.1 hbc.symm).2 hc⟩
      · rintro ⟨happend, hm, hearlier⟩
        cases a with
        | nil =>
          rw [List.nil_append] at happend
          rw [← happend] at hm
          exact ⟨rfl, Option.some.inj (hfirst.symm.trans hm)⟩
        | cons x a =>
          have hnone := hearlier [] (x :: a) rfl (List.cons_ne_nil x a)
          rw [← happend] at hnone
          exact absurd (hfirst.symm.trans hnone) nofun
    | none =>
      simp only [Option.map_eq_some_iff, Prod.mk.injEq]
      constructor
      · rintro ⟨⟨a', m'⟩, he, rfl, rfl⟩
        obtain ⟨happend, hm, hearlier⟩ := ih.1 he
        refine ⟨by rw [happend, List.cons_append], hm, fun b c hbc hc => ?_⟩
        cases b with
        | nil =>
          rw [List.nil_append] at hbc
          rw [← hbc, List.cons_append, ← happend]
          exact hfirst
        | cons x b =>
          obtain ⟨rfl, htail⟩ := List.cons.inj hbc
          exact hearlier b c htail hc
      · rintro ⟨happend, hm, hearlier⟩
        cases a with
        | nil =>
          rw [List.nil_append] at happend
          rw [← happend] at hm
          exact absurd (hfirst.symm.trans hm) nofun
        | cons x a =>
          obtain ⟨rfl, htail⟩ := List.cons.inj happend
          exact ⟨(a, m), ih.2 ⟨htail, hm, fun b c hbc hc => hearlier (d :: b) c (by rw [hbc, List.cons_append]) hc⟩,
            rfl, rfl⟩

theorem search_eq_none : p.search isWord before s = none ↔
    ∀ b c, s = b ++ c → p.matchAt isWord (wordLast isWord before b) c = none := by
  induction s generalizing before with
  | nil =>
    simp only [search, Option.map_eq_none_iff]
    refine ⟨fun h b c hbc => ?_, fun h => h [] [] rfl⟩
    obtain ⟨rfl, rfl⟩ := List.append_eq_nil_iff.1 hbc.symm
    exact h
  | cons d s ih =>
    unfold search
    cases hfirst : p.matchAt isWord before (d :: s) with
    | some m => exact iff_of_false nofun fun h => absurd (hfirst.symm.trans (h [] (d :: s) rfl)) nofun
    | none =>
      simp only [Option.map_eq_none_iff, ih]
      refine ⟨fun h b c hbc => ?_, fun h b c hbc => h (d :: b) c (by rw [hbc, List.cons_append])⟩
      cases b with
      | nil => rw [List.nil_append] at hbc; rw [← hbc]; exact hfirst
      | cons x b =>
        obtain ⟨rfl, htail⟩ := List.cons.inj hbc
        exact h b c htail

/-- Matches of `s` with what is behind them are those of `s ++ t`, and others start in `t`. -/
theorem search_append_of_local (before : Bool) {t : List Char} (hwidth : 0 < p.width)
    (h : ∀ before u, u <:+ s → u ≠ [] → p.matchAt isWord before (u ++ t) = (p.matchAt isWord before u).map (Found.extend t)) :
    p.search isWord before (s ++ t) = match p.search isWord before s with
      | some e => some (e.1, e.2.extend t)
      | none => (p.search isWord (wordLast isWord before s) t).map fun e => (s ++ e.1, e.2) := by
  induction s generalizing before with
  | nil =>
    have hnil : p.search isWord before [] = none := by rw [search, matchAt_nil hwidth, Option.map_none]
    have hid : (fun e : List Char × Found => (([] : List Char) ++ e.1, e.2)) = id := rfl
    rw [hnil, hid, Option.map_id_apply]
    rfl
  | cons c s ih =>
    have hhead := h before (c :: s) (List.suffix_refl _) (List.cons_ne_nil c s)
    rw [List.cons_append] at hhead ⊢
    rw [search, search, hhead]
    cases p.matchAt isWord before (c :: s) with
    | some m => rfl
    | none =>
      simp only [Option.map_none]
      rw [ih (isWord c) fun before u hu => h before u (hu.trans (List.suffix_cons c s))]
      cases p.search isWord (isWord c) s with
      | some e => rfl
      | none =>
        simp only [Option.map_none, Option.map_map]
        rfl

end Pattern

end Regex
