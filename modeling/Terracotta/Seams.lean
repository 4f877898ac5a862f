import Terracotta.Replacement
/-!
# Words that a replacement leaves alone

A set of words is looked for where no word character stands in front.  A replacement brings in no such word as long as
none of them fits into the mark, and none starts behind a match unless it stood alone there before.
-/
namespace Regex

/-- A word without `c` lies on one side of the first of two texts joined by `c`, or of the other. -/
theorem append_cons_split {c : Char} {u w v x y : List Char} (hw : w ≠ []) (hc : c ∉ w)
    (h : u ++ (w ++ v) = x ++ c :: y) :
    (∃ v', x = u ++ (w ++ v') ∧ v = v' ++ c :: y) ∨ ∃ u', u = x ++ c :: u' ∧ y = u' ++ (w ++ v) := by
  rcases List.append_eq_append_iff.1 h with ⟨z, rfl, hz⟩ | ⟨z, rfl, hz⟩
  · -- the word starts before the mark's character, so it ends before it
    rcases List.append_eq_append_iff.1 hz with ⟨z', rfl, hv⟩ | ⟨z', rfl, hcy⟩
    · exact .inl ⟨z', rfl, hv⟩
    · cases z' with
      | nil => exact .inl ⟨[], by simp, by simpa using hcy.symm⟩
      | cons d z' =>
        obtain ⟨rfl, -⟩ := List.cons.inj hcy
        exact absurd (List.mem_append_right z List.mem_cons_self) hc
  · cases z with
    | nil =>
      rw [List.nil_append] at hz
      cases w with
      | nil => exact absurd rfl hw
      | cons d w =>
        obtain ⟨rfl, -⟩ := List.cons.inj hz
        exact absurd List.mem_cons_self hc
    | cons d z =>
      obtain ⟨rfl, hy⟩ := List.cons.inj hz
      exact .inr ⟨z, rfl, hy⟩

/-! ## What a match takes, and where it stops -/

theorem mem_splits_of_least {q : Char → Bool} {least : Nat} {x y : List Char} (h : ∀ c ∈ x, q c = true)
    (hleast : least ≤ x.length) : (x, y) ∈ splits q least none (x ++ y) := by
  have hrun : x.length ≤ ((x ++ y).takeWhile q).length := by
    rw [List.takeWhile_append_of_pos h, List.length_append]
    exact Nat.le_add_right _ _
  refine List.mem_map.2 ⟨x.length, List.mem_filter.2 ⟨List.mem_range.2 (Nat.lt_succ_of_le hrun), ?_⟩, ?_⟩
  · exact decide_eq_true hleast
  · rw [List.take_left, List.drop_left]

/-- A greedy repetition stops where the next character is none of its own. -/
theorem head?_of_greedy {q : Char → Bool} {least : Nat} {s : List Char} {e : List Char × List Char}
    (h : (splits q least none s).reverse.head? = some e) : ∀ c ∈ e.2.head?, q c = false := by
  obtain ⟨x, y⟩ := e
  obtain ⟨l, hl⟩ : ∃ l, splits q least none s = l ++ [(x, y)] := by
    rw [List.head?_reverse] at h
    exact List.getLast?_eq_some_iff.1 h
  have hmem : (x, y) ∈ splits q least none s := hl ▸ List.mem_append_right l (List.mem_singleton_self _)
  obtain ⟨rfl, hleast, -, hall⟩ := mem_splits hmem
  intro c hc
  cases hq : q c with
  | false => rfl
  | true =>
    -- one more character would make a longer run
    obtain ⟨y, rfl⟩ : ∃ y', y = c :: y' := List.head?_eq_some_iff.1 hc
    have hlonger : (x ++ [c], y) ∈ splits q least none (x ++ c :: y) := by
      rw [List.append_cons]
      refine mem_splits_of_least (fun d hd => ?_) (hleast.trans (List.prefix_append x [c]).length_le)
      rcases List.mem_append.1 hd with hd | hd
      · exact hall d hd
      · cases List.mem_singleton.1 hd
        exact hq
    have hpairs := splits_pairwise q least (x ++ c :: y)
    dsimp only at hl
    rw [hl] at hlonger hpairs
    rcases List.mem_append.1 hlonger with hin | hin
    · have hlt := (List.pairwise_append.1 hpairs).2.2 _ hin _ (List.mem_singleton_self _)
      simp only [List.length_append, List.length_singleton] at hlt
      omega
    · have hlength := congrArg List.length (Prod.mk.inj (List.mem_singleton.1 hin)).1
      simp at hlength

theorem Pattern.head?_ends_tail {p : Pattern} {isWord : Char → Bool} {before : Bool} {s : List Char} {m : Found}
    (h : p.matchAt isWord before s = some m) : ∃ before s, (p.tail.ends isWord before s).head? = some (m.tail, m.rest) := by
  unfold Pattern.matchAt at h
  rw [List.head?_flatMap, List.findSome?_eq_some_iff] at h
  obtain ⟨-, e, -, -, hm, -⟩ := h
  rw [List.head?_map, Option.map_eq_some_iff] at hm
  obtain ⟨e', he', rfl⟩ := hm
  exact ⟨_, _, he'⟩

/-- Behind a pattern that ends in a greedy repetition, the next character is none of the repetition's. -/
theorem Pattern.rest_of_greedy {p : Pattern} {q : Char → Bool} {least : Nat} {isWord : Char → Bool} {before : Bool}
    {s : List Char} {m : Found} (htail : p.tail = .rep q least none false) (h : p.matchAt isWord before s = some m) :
    ∀ c ∈ m.rest.head?, q c = false := by
  obtain ⟨before', s', he⟩ := head?_ends_tail h
  rw [htail] at he
  exact head?_of_greedy he

theorem Pattern.rest_of_greedy_seq {p : Pattern} {n : Node} {q : Char → Bool} {least : Nat} {isWord : Char → Bool}
    {before : Bool} {s : List Char} {m : Found} (htail : p.tail = .seq n (.rep q least none false))
    (h : p.matchAt isWord before s = some m) : ∀ c ∈ m.rest.head?, q c = false := by
  obtain ⟨before', s', he⟩ := head?_ends_tail h
  rw [htail, ends_seq, List.head?_flatMap, List.findSome?_eq_some_iff] at he
  obtain ⟨-, e, -, -, he, -⟩ := he
  rw [List.head?_map, Option.map_eq_some_iff] at he
  obtain ⟨e', he', hrest⟩ := he
  rw [← (Prod.mk.inj hrest).2]
  exact head?_of_greedy he'

theorem Pattern.matchAt_ne_none_of_mem {p : Pattern} {isWord : Char → Bool} {before : Bool} {s : List Char}
    {e e' : List Char × List Char} (he : e ∈ p.lead.ends isWord before s)
    (he' : e' ∈ p.tail.ends isWord (wordLast isWord before e.1) e.2) : p.matchAt isWord before s ≠ none := by
  intro hnone
  have hempty := List.flatMap_eq_nil_iff.1 (List.head?_eq_none_iff.1 hnone) e he
  rw [List.map_eq_nil_iff] at hempty
  rw [hempty] at he'
  cases he'

/-! ## Words -/

section

variable (isWord : Char → Bool) (W : List Char → Prop)

/-- No word stands in the text without a word character in front. -/
def Bounded (before : Bool) (s : List Char) : Prop :=
  ∀ u w v, W w → s = u ++ (w ++ v) → wordLast isWord before u = true

/-- A word starts the text. -/
def Starts (s : List Char) : Prop := ∃ w v, W w ∧ s = w ++ v

end

section

variable {isWord : Char → Bool} {W : List Char → Prop} {before before' : Bool} {s x y : List Char}

theorem wordLast_append (before : Bool) (x y : List Char) :
    wordLast isWord before (x ++ y) = wordLast isWord (wordLast isWord before x) y :=
  List.foldl_append

theorem wordLast_of_ne_nil {u : List Char} (hu : u ≠ []) (before before' : Bool) :
    wordLast isWord before u = wordLast isWord before' u := by
  cases u with
  | nil => exact absurd rfl hu
  | cons c u => rfl

theorem Bounded.left (h : Bounded isWord W before (x ++ y)) : Bounded isWord W before x := by
  rintro u w v hw rfl
  exact h u w (v ++ y) hw (by simp only [List.append_assoc])

theorem Bounded.right (h : Bounded isWord W before (x ++ y)) : Bounded isWord W (wordLast isWord before x) y := by
  rintro u w v hw rfl
  rw [← wordLast_append]
  exact h (x ++ u) w v hw (by simp only [List.append_assoc])

/-- What stands in front of a text matters to the words that start it only. -/
theorem Bounded.change (h : Bounded isWord W before s) (hstart : before = before' ∨ ¬ Starts W s) :
    Bounded isWord W before' s := by
  rintro u w v hw rfl
  cases u with
  | nil =>
    rcases hstart with rfl | hno
    · exact h [] w v hw rfl
    · exact absurd ⟨w, v, hw, rfl⟩ hno
  | cons c u => exact h (c :: u) w v hw rfl

/-- **A replacement keeps words away**, where every match leaves none in front of it or across its lead, and none starts
behind it unless a word character was not in front there either. -/
theorem Bounded.replace {p : Pattern} (l r : Char) (inner : List Char) (hwidth : 0 < p.width)
    (hl : ∀ w, W w → w ≠ [] ∧ l ∉ w ∧ r ∉ w ∧ ¬ w <:+: inner) {I : Bool → List Char → Prop}
    (hnone : ∀ before s, I before s → p.search isWord before s = none → Bounded isWord W before s)
    (hsome : ∀ before s a m, I before s → p.search isWord before s = some (a, m) →
      Bounded isWord W before (a ++ m.lead) ∧ I (wordLast isWord before (a ++ m.lead ++ m.tail)) m.rest ∧
        (wordLast isWord before (a ++ m.lead ++ m.tail) = false ∨ ¬ Starts W m.rest))
    (hI : I before s) (hstart : before = before' ∨ ¬ Starts W s) :
    Bounded isWord W before' (p.replace isWord (l :: (inner ++ [r])) before s) := by
  induction before, s using Pattern.search_induction isWord hwidth generalizing before' with
  | none before s hsearch =>
    rw [Pattern.replace_none hsearch]
    exact (hnone before s hI hsearch).change hstart
  | some before s a m hsearch ih =>
    obtain ⟨hleft, hrest, hseam⟩ := hsome before s a m hI hsearch
    obtain ⟨hs, -, -⟩ := Pattern.search_eq_some.1 hsearch
    rw [Pattern.replace_some hwidth hsearch]
    intro u w v hw heq
    obtain ⟨hne, hopen, hclose, hinner⟩ := hl w hw
    have hsplit : u ++ (w ++ v) = (a ++ m.lead) ++ l :: (inner ++ r ::
        p.replace isWord (l :: (inner ++ [r])) (wordLast isWord before (a ++ m.lead ++ m.tail)) m.rest) := by
      rw [← heq]
      simp only [List.append_assoc, List.cons_append, List.nil_append]
    rcases append_cons_split hne hopen hsplit with ⟨v', hin, -⟩ | ⟨u', rfl, hbehind⟩
    · -- in front of the mark the text is the old one
      have hstart' : before = before' ∨ ¬ Starts W (a ++ m.lead) := by
        refine hstart.imp_right (fun hno => ?_)
        rintro ⟨w', v'', hw', hstarts⟩
        refine hno ⟨w', v'' ++ (m.tail ++ m.rest), hw', ?_⟩
        rw [hs, ← List.append_assoc, hstarts, List.append_assoc]
      exact hleft.change hstart' u w v' hw hin
    · rcases append_cons_split hne hclose hbehind.symm with ⟨v', hin, -⟩ | ⟨u'', rfl, hin⟩
      · exact absurd ⟨u', v', by rw [hin, List.append_assoc]⟩ hinner
      · have hbehind := ih hrest hseam u'' w v hw hin
        rw [wordLast_append]
        cases u'' with
        | nil => rw [show wordLast isWord false [] = false from rfl] at hbehind; cases hbehind
        | cons c u'' =>
          rw [show l :: (inner ++ r :: c :: u'') = (l :: (inner ++ [r])) ++ c :: u'' by simp, wordLast_append]
          exact (wordLast_of_ne_nil (List.cons_ne_nil c u'') _ _).trans hbehind

/-- **A replacement that takes none of the words' surroundings** keeps them away if they were. -/
theorem Bounded.kept {p : Pattern} (l r : Char) (inner : List Char) (hwidth : 0 < p.width)
    (hl : ∀ w, W w → w ≠ [] ∧ l ∉ w ∧ r ∉ w ∧ ¬ w <:+: inner)
    (hseam : ∀ before s m, p.matchAt isWord before s = some m →
      wordLast isWord before (m.lead ++ m.tail) = false ∨ ¬ Starts W m.rest)
    (h : Bounded isWord W before s) : Bounded isWord W before (p.replace isWord (l :: (inner ++ [r])) before s) := by
  refine Bounded.replace l r inner hwidth hl (I := Bounded isWord W) (fun _ _ h _ => h)
    (fun before s a m h hsearch => ?_) h (.inl rfl)
  obtain ⟨hs, hm, -⟩ := Pattern.search_eq_some.1 hsearch
  rw [hs] at h
  have hsplit : a ++ (m.lead ++ (m.tail ++ m.rest)) = (a ++ m.lead ++ m.tail) ++ m.rest := by
    simp only [List.append_assoc]
  refine ⟨?_, (hsplit ▸ h).right, ?_⟩
  · rw [← List.append_assoc] at h
    exact h.left
  · rw [List.append_assoc, wordLast_append]
    exact hseam _ _ m hm

end

/-! ## Texts in front of a marker -/

/-- `y` is `x` with pieces of `value` characters masked, none of them right in front of an `after` character. -/
inductive Sealed (mark : List Char) (value after : Char → Bool) : List Char → List Char → Prop where
  | nil : Sealed mark value after [] []
  | keep (c : Char) {x y : List Char} (h : Sealed mark value after x y) : Sealed mark value after (c :: x) (c :: y)
  | mask {q : List Char} (hq : q ≠ []) (hvalue : ∀ c ∈ q, value c = true) {x y : List Char}
      (h : Sealed mark value after x y) (hstop : ∀ c ∈ y.head?, after c = false) :
      Sealed mark value after (q ++ x) (mark ++ y)

namespace Sealed

variable {mark : List Char} {value after : Char → Bool} {x y : List Char}

theorem refl : ∀ x : List Char, Sealed mark value after x x
  | [] => .nil
  | c :: x => .keep c (refl x)

theorem append_left (a : List Char) (h : Sealed mark value after x y) : Sealed mark value after (a ++ x) (a ++ y) := by
  induction a with
  | nil => exact h
  | cons c a ih => exact .keep c ih

theorem masked (h : Sealed mark value after x y) : Masked mark x y := by
  induction h with
  | nil => exact .nil
  | keep c h ih => exact .keep c ih
  | mask hq hvalue h hstop ih => exact .mask hq ih

theorem of_masked (h : Masked mark x y) : Sealed mark (fun _ => true) (fun _ => false) x y := by
  induction h with
  | nil => exact .nil
  | keep c h ih => exact .keep c ih
  | mask hq h ih => exact .mask hq (fun _ _ => rfl) ih fun _ _ => rfl

theorem mono {value' : Char → Bool} (hle : ∀ c, value c = true → value' c = true) (h : Sealed mark value after x y) :
    Sealed mark value' after x y := by
  induction h with
  | nil => exact .nil
  | keep c h ih => exact .keep c ih
  | mask hq hvalue h hstop ih => exact .mask hq (fun c hc => hle c (hvalue c hc)) ih hstop

theorem of_append {l : Char} {tail w y₂ : List Char} (h : Sealed mark value after x y) (hmark : mark = l :: tail)
    (hl : l ∉ w) (hy : y = w ++ y₂) : ∃ x₂, x = w ++ x₂ ∧ Sealed mark value after x₂ y₂ := by
  induction w generalizing x y with
  | nil =>
    subst hy
    exact ⟨x, rfl, h⟩
  | cons d w ih =>
    cases h with
    | nil => cases hy
    | keep c h =>
      obtain ⟨rfl, htail⟩ := List.cons.inj hy
      obtain ⟨x₂, rfl, h₂⟩ := ih h (fun hmem => hl (List.mem_cons_of_mem c hmem)) htail
      exact ⟨x₂, rfl, h₂⟩
    | mask hq hvalue h hstop =>
      rw [hmark] at hy
      exact absurd ((List.cons.inj hy).1 ▸ List.mem_cons_self) hl

/-- **Where a masked text contains a word without the ends of a mark**, and not what is between them, the text contains
it; and where the word starts with an `after` character, it stands behind the same character. -/
theorem split (isWord : Char → Bool) {l r : Char} {inner w y₁ y₂ : List Char} (h : Sealed mark value after x y)
    (hmark : mark = l :: (inner ++ [r])) (hl : l ∉ w) (hr : r ∉ w) (hinner : ¬ w <:+: inner) (hy : y = y₁ ++ (w ++ y₂)) :
    ∃ x₁ x₂, x = x₁ ++ (w ++ x₂) ∧ Sealed mark value after x₁ y₁ ∧ Sealed mark value after x₂ y₂ ∧
      ((∀ c ∈ w.head?, after c = true) → ∀ before, wordLast isWord before x₁ = wordLast isWord before y₁) := by
  have hne : w ≠ [] := by
    rintro rfl
    exact hinner List.nil_infix
  induction h generalizing y₁ with
  | nil => exact absurd (List.append_eq_nil_iff.1 (List.append_eq_nil_iff.1 hy.symm).2).1 hne
  | @keep c x y h ih =>
    cases y₁ with
    | nil =>
      obtain ⟨x₂, hx, h₂⟩ := (Sealed.keep c h).of_append hmark hl hy
      exact ⟨[], x₂, hx, .nil, h₂, fun _ _ => rfl⟩
    | cons d y₁ =>
      obtain ⟨rfl, htail⟩ := List.cons.inj hy
      obtain ⟨x₁, x₂, rfl, h₁, h₂, hlast⟩ := ih htail
      exact ⟨c :: x₁, x₂, rfl, .keep c h₁, h₂, fun hhead _ => hlast hhead (isWord c)⟩
  | @mask q hq hvalue x y h hstop ih =>
    have hsplit : y₁ ++ (w ++ y₂) = [] ++ l :: (inner ++ r :: y) := by
      rw [← hy, hmark]
      simp only [List.append_assoc, List.cons_append, List.nil_append]
    rcases append_cons_split hne hl hsplit with ⟨v, hnil, -⟩ | ⟨y₁', rfl, hbehind⟩
    · exact absurd (List.append_eq_nil_iff.1 (List.append_eq_nil_iff.1 hnil.symm).2).1 hne
    rcases append_cons_split hne hr hbehind.symm with ⟨v, hin, -⟩ | ⟨y₁, rfl, hback⟩
    · exact absurd ⟨y₁', v, by rw [hin, List.append_assoc]⟩ hinner
    have hsame : [] ++ l :: (inner ++ r :: y₁) = mark ++ y₁ := by
      rw [hmark]
      simp only [List.append_assoc, List.cons_append, List.nil_append]
    obtain ⟨x₁, x₂, rfl, h₁, h₂, hlast⟩ := ih hback
    rw [hsame]
    refine ⟨q ++ x₁, x₂, (List.append_assoc q x₁ _).symm, ?_, h₂, fun hhead before => ?_⟩
    · refine .mask hq hvalue h₁ fun c hc => ?_
      obtain ⟨y₁, rfl⟩ := List.head?_eq_some_iff.1 hc
      exact hstop c (by rw [hback]; rfl)
    · have hy₁ : y₁ ≠ [] := by
        rintro rfl
        obtain ⟨d, w, rfl⟩ := List.exists_cons_of_ne_nil hne
        have hd := hstop d (by rw [hback]; rfl)
        rw [hhead d rfl] at hd
        cases hd
      rw [wordLast_append, wordLast_append, hlast hhead]
      exact wordLast_of_ne_nil hy₁ _ _

end Sealed

theorem Masked.split {mark : List Char} {l r : Char} {inner w y₁ y₂ x y : List Char} (h : Masked mark x y)
    (hmark : mark = l :: (inner ++ [r])) (hl : l ∉ w) (hr : r ∉ w) (hinner : ¬ w <:+: inner)
    (hy : y = y₁ ++ (w ++ y₂)) : ∃ x₁ x₂, x = x₁ ++ (w ++ x₂) ∧ Masked mark x₁ y₁ ∧ Masked mark x₂ y₂ := by
  obtain ⟨x₁, x₂, hx, h₁, h₂, -⟩ := (Sealed.of_masked h).split (fun _ => false) hmark hl hr hinner hy
  exact ⟨x₁, x₂, hx, h₁.masked, h₂.masked⟩

end Regex
