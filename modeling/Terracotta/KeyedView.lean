import Mathlib.Data.List.Nodup
/-!
# A keyed view and the changes it is kept by

A publisher holds items by key and tells its listeners what changed from one list of items to the next; a listener that
applies the changes in order holds the same items.  Nothing here names a particular record.
-/
namespace KeyedView

variable {κ α : Type} [DecidableEq κ]

/-- A change, as it is published. -/
inductive Change (κ α : Type)
  | joined (item : α)
  | updated (item : α)
  | left (k : κ)

/-- The items of a list by their keys. -/
def byKey (keyOf : α → κ) (items : List α) : κ → Option α := fun k => items.find? (fun a => keyOf a = k)

section

variable (keyOf : α → κ)

def Change.key : Change κ α → κ
  | .joined a | .updated a => keyOf a
  | .left k => k

def Change.value : Change κ α → Option α
  | .joined a | .updated a => some a
  | .left _ => none

def apply (view : κ → Option α) (c : Change κ α) : κ → Option α := Function.update view (c.key keyOf) c.value

/-- **The change is news to the view**: who joins was absent, who leaves was present, what is updated was another. -/
def Change.News (view : κ → Option α) : Change κ α → Prop
  | .joined a => view (keyOf a) = none
  | .updated a => ∃ previous, view (keyOf a) = some previous ∧ previous ≠ a
  | .left k => view k ≠ none

/-- Every change is news when its turn comes. -/
def AllNews : (κ → Option α) → List (Change κ α) → Prop
  | _, [] => True
  | view, c :: cs => c.News keyOf view ∧ AllNews (apply keyOf view c) cs

/-- An item against the entry of its key. -/
def against (same : α → α → Bool) (known : κ → Option α) (a : α) : Option (Change κ α) :=
  match known (keyOf a) with
  | none => some (.joined a)
  | some previous => if same previous a then none else some (.updated a)

/-- **The changes from a known table to a list**: each item against its entry, then the keys that are gone. -/
def diff (same : α → α → Bool) (known : κ → Option α) (keys : List κ) (items : List α) : List (Change κ α) :=
  items.filterMap (against keyOf same known) ++ (keys.filter (fun k => k ∉ items.map keyOf)).map .left

end

variable {keyOf : α → κ}

theorem byKey_of_mem {items : List α} (hnodup : (items.map keyOf).Nodup) {a : α} (h : a ∈ items) :
    byKey keyOf items (keyOf a) = some a := by
  unfold byKey
  cases hf : items.find? (fun b => keyOf b = keyOf a) with
  | none => exact absurd (List.find?_eq_none.1 hf a h) (by simp)
  | some b =>
    have hkey : keyOf b = keyOf a := by simpa using List.find?_some hf
    rw [List.inj_on_of_nodup_map hnodup (List.mem_of_find?_eq_some hf) h hkey]

theorem byKey_of_not_mem {items : List α} {k : κ} (h : k ∉ items.map keyOf) : byKey keyOf items k = none := by
  refine List.find?_eq_none.2 fun a ha => ?_
  simp only [decide_eq_true_eq]
  exact fun hk => h (hk ▸ List.mem_map_of_mem ha)

theorem foldl_apply_of_not_mem {k : κ} : ∀ {cs : List (Change κ α)} {view : κ → Option α},
    k ∉ cs.map (Change.key keyOf) → cs.foldl (apply keyOf) view k = view k
  | [], _, _ => rfl
  | c :: cs, view, h => by
    rw [List.map_cons, List.mem_cons, not_or] at h
    rw [List.foldl_cons, foldl_apply_of_not_mem h.2]
    exact Function.update_of_ne h.1 _ _

/-- **Changes with different keys do not disturb each other**: each leaves its own value. -/
theorem foldl_apply_of_mem : ∀ {cs : List (Change κ α)} {view : κ → Option α} {c : Change κ α},
    (cs.map (Change.key keyOf)).Nodup → c ∈ cs → cs.foldl (apply keyOf) view (c.key keyOf) = c.value
  | d :: cs, view, c, hnodup, hmem => by
    rw [List.map_cons, List.nodup_cons] at hnodup
    rw [List.foldl_cons]
    rcases List.mem_cons.1 hmem with rfl | hmem
    · rw [foldl_apply_of_not_mem hnodup.1]
      exact Function.update_self _ _ _
    · exact foldl_apply_of_mem hnodup.2 hmem

omit [DecidableEq κ] in
theorem Change.News.of_eq {view view' : κ → Option α} {c : Change κ α} (h : view' (c.key keyOf) = view (c.key keyOf))
    (hnews : c.News keyOf view) : c.News keyOf view' := by
  cases c with
  | joined a => exact h.trans hnews
  | updated a =>
    obtain ⟨previous, hprevious, hne⟩ := hnews
    exact ⟨previous, h.trans hprevious, hne⟩
  | left k => exact fun hnone => hnews (h.symm.trans hnone)

theorem allNews_of_nodup : ∀ {cs : List (Change κ α)} {view : κ → Option α},
    (cs.map (Change.key keyOf)).Nodup → (∀ c ∈ cs, c.News keyOf view) → AllNews keyOf view cs
  | [], _, _, _ => trivial
  | c :: cs, view, hnodup, hnews => by
    rw [List.map_cons, List.nodup_cons] at hnodup
    refine ⟨hnews c List.mem_cons_self, allNews_of_nodup hnodup.2 fun d hd => ?_⟩
    refine Change.News.of_eq ?_ (hnews d (List.mem_cons_of_mem c hd))
    have hne : d.key keyOf ≠ c.key keyOf := fun h => hnodup.1 (h ▸ List.mem_map_of_mem hd)
    exact Function.update_of_ne hne _ _

section Diff

variable {same : α → α → Bool} {known : κ → Option α} {keys : List κ} {items : List α}

omit [DecidableEq κ] in
theorem against_eq_some {a : α} {c : Change κ α} : against keyOf same known a = some c ↔
    (known (keyOf a) = none ∧ c = .joined a) ∨
      ∃ previous, known (keyOf a) = some previous ∧ same previous a = false ∧ c = .updated a := by
  unfold against
  cases known (keyOf a) with
  | none => simp only [Option.some.injEq, true_and, reduceCtorEq, false_and, exists_false, or_false, eq_comm (a := c)]
  | some previous =>
    cases hsame : same previous a with
    | true => simp [hsame]
    | false => simp [hsame, eq_comm (a := c)]

omit [DecidableEq κ] in
theorem key_of_against {a : α} {c : Change κ α} (h : against keyOf same known a = some c) : c.key keyOf = keyOf a := by
  rcases against_eq_some.1 h with ⟨-, rfl⟩ | ⟨_, -, -, rfl⟩ <;> rfl

theorem mem_diff {c : Change κ α} : c ∈ diff keyOf same known keys items ↔
    (∃ a ∈ items, known (keyOf a) = none ∧ c = .joined a) ∨
      (∃ a ∈ items, ∃ previous, known (keyOf a) = some previous ∧ same previous a = false ∧ c = .updated a) ∨
      ∃ k ∈ keys, k ∉ items.map keyOf ∧ c = .left k := by
  unfold diff
  rw [List.mem_append, List.mem_filterMap, List.mem_map]
  constructor
  · rintro (⟨a, ha, hc⟩ | ⟨k, hk, rfl⟩)
    · rcases against_eq_some.1 hc with ⟨hnone, rfl⟩ | ⟨previous, hprevious, hsame, rfl⟩
      · exact Or.inl ⟨a, ha, hnone, rfl⟩
      · exact Or.inr (Or.inl ⟨a, ha, previous, hprevious, hsame, rfl⟩)
    · rw [List.mem_filter] at hk
      exact Or.inr (Or.inr ⟨k, hk.1, by simpa using hk.2, rfl⟩)
  · rintro (⟨a, ha, hnone, rfl⟩ | ⟨a, ha, previous, hprevious, hsame, rfl⟩ | ⟨k, hk, hgone, rfl⟩)
    · exact Or.inl ⟨a, ha, against_eq_some.2 (Or.inl ⟨hnone, rfl⟩)⟩
    · exact Or.inl ⟨a, ha, against_eq_some.2 (Or.inr ⟨previous, hprevious, hsame, rfl⟩)⟩
    · exact Or.inr ⟨k, List.mem_filter.2 ⟨hk, by simpa using hgone⟩, rfl⟩

omit [DecidableEq κ] in
/-- The keys of the items' changes are among the items' keys, in their order. -/
theorem keys_of_against (items : List α) :
    ((items.filterMap (against keyOf same known)).map (Change.key keyOf)).Sublist (items.map keyOf) := by
  induction items with
  | nil => exact List.Sublist.refl _
  | cons a items ih =>
    rw [List.filterMap_cons]
    cases hc : against keyOf same known a with
    | none => exact ih.cons (keyOf a)
    | some c =>
      rw [List.map_cons, List.map_cons, key_of_against hc]
      exact ih.cons_cons (keyOf a)

theorem nodup_diff (hitems : (items.map keyOf).Nodup) (hkeys : keys.Nodup) :
    ((diff keyOf same known keys items).map (Change.key keyOf)).Nodup := by
  have hgone : ((keys.filter (fun k => k ∉ items.map keyOf)).map Change.left).map (Change.key keyOf) =
      keys.filter (fun k => k ∉ items.map keyOf) := by
    rw [List.map_map]
    exact List.map_id _
  unfold diff
  rw [List.map_append, hgone, List.nodup_append']
  refine ⟨(keys_of_against items).nodup hitems, hkeys.filter _, fun k hk hk' => ?_⟩
  have hmem : k ∈ items.map keyOf := (keys_of_against items).subset hk
  exact absurd hmem (by simpa using (List.mem_filter.1 hk').2)

/-- **A listener that applies the diff holds the new items**, every change of it is news, and there is none where the
items are those it holds.  The keys are the known table's, each once, and `same` is equality between what the table and
the list hold. -/
theorem diff_sound (hitems : (items.map keyOf).Nodup) (hkeys : keys.Nodup) (hknown : ∀ k, known k ≠ none ↔ k ∈ keys)
    (hsame : ∀ a ∈ items, ∀ previous, known (keyOf a) = some previous → (same previous a = true ↔ previous = a)) :
    (diff keyOf same known keys items).foldl (apply keyOf) known = byKey keyOf items ∧
      AllNews keyOf known (diff keyOf same known keys items) ∧
      (known = byKey keyOf items → diff keyOf same known keys items = []) := by
  have hnodup : ((diff keyOf same known keys items).map (Change.key keyOf)).Nodup := nodup_diff hitems hkeys
  refine ⟨funext fun k => ?_, allNews_of_nodup hnodup fun c hc => ?_, fun heq => ?_⟩
  · by_cases hk : k ∈ items.map keyOf
    · obtain ⟨a, ha, rfl⟩ := List.mem_map.1 hk
      rw [byKey_of_mem hitems ha]
      by_cases hchanged : keyOf a ∈ (diff keyOf same known keys items).map (Change.key keyOf)
      · obtain ⟨c, hc, hckey⟩ := List.mem_map.1 hchanged
        rw [← hckey, foldl_apply_of_mem hnodup hc]
        rcases mem_diff.1 hc with ⟨b, hb, -, rfl⟩ | ⟨b, hb, _, -, -, rfl⟩ | ⟨k', -, hgone, rfl⟩
        · rw [List.inj_on_of_nodup_map hitems hb ha hckey]
          rfl
        · rw [List.inj_on_of_nodup_map hitems hb ha hckey]
          rfl
        · have hk' : k' = keyOf a := hckey
          exact absurd (List.mem_map_of_mem ha) (hk' ▸ hgone)
      · rw [foldl_apply_of_not_mem hchanged]
        cases hprevious : known (keyOf a) with
        | none =>
          exact absurd (List.mem_map_of_mem (mem_diff.2 (Or.inl ⟨a, ha, hprevious, rfl⟩))) hchanged
        | some previous =>
          have htrue : same previous a = true := by
            by_contra hfalse
            rw [Bool.not_eq_true] at hfalse
            exact hchanged (List.mem_map_of_mem (mem_diff.2 (Or.inr (Or.inl ⟨a, ha, previous, hprevious, hfalse, rfl⟩))))
          rw [(hsame a ha previous hprevious).1 htrue]
    · rw [byKey_of_not_mem hk]
      by_cases hgone : k ∈ keys
      · exact foldl_apply_of_mem hnodup (mem_diff.2 (Or.inr (Or.inr ⟨k, hgone, hk, rfl⟩)))
      · have hnone : known k = none := by
          by_contra hne
          exact hgone ((hknown k).1 hne)
        rw [foldl_apply_of_not_mem, hnone]
        intro hchanged
        obtain ⟨c, hc, hckey⟩ := List.mem_map.1 hchanged
        rcases mem_diff.1 hc with ⟨b, hb, -, rfl⟩ | ⟨b, hb, _, -, -, rfl⟩ | ⟨k', hk', -, rfl⟩
        · exact hk (hckey ▸ List.mem_map_of_mem hb)
        · exact hk (hckey ▸ List.mem_map_of_mem hb)
        · exact hgone (hckey ▸ hk')
  · rcases mem_diff.1 hc with ⟨a, -, hnone, rfl⟩ | ⟨a, ha, previous, hprevious, hfalse, rfl⟩ | ⟨k, hk, -, rfl⟩
    · exact hnone
    · refine ⟨previous, hprevious, fun heq => ?_⟩
      rw [(hsame a ha previous hprevious).2 heq] at hfalse
      cases hfalse
    · exact (hknown k).2 hk
  · refine List.eq_nil_iff_forall_not_mem.2 fun c hc => ?_
    rcases mem_diff.1 hc with ⟨a, ha, hnone, -⟩ | ⟨a, ha, previous, hprevious, hfalse, -⟩ | ⟨k, hk, hgone, -⟩
    · rw [heq, byKey_of_mem hitems ha] at hnone
      cases hnone
    · rw [heq, byKey_of_mem hitems ha] at hprevious
      rw [(hsame a ha previous (by rw [heq, byKey_of_mem hitems ha, hprevious])).2 (Option.some.inj hprevious).symm]
        at hfalse
      cases hfalse
    · refine (hknown k).2 hk ?_
      rw [heq]
      exact byKey_of_not_mem hgone

end Diff

end KeyedView
