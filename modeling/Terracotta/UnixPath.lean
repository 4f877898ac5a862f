import Mathlib.Data.List.Basic
/-!
# Paths as text

A path is read as the names between its separators; a separator twice counts once, and a single period names nothing.
`resolve` follows two periods one name up, and stays at the root where there is none.  Nothing here names a particular
system.
-/
namespace UnixPath

/-- The names on a path, from the root down. -/
def names (path : List Char) : List (List Char) := (path.splitOn '/').filter (fun n => n ≠ [] ∧ n ≠ ['.'])

structure IsName (n : List Char) : Prop where
  nonempty : n ≠ []
  whole : '/' ∉ n
  moves : n ≠ ['.']

instance (n : List Char) : Decidable (IsName n) :=
  decidable_of_iff (n ≠ [] ∧ '/' ∉ n ∧ n ≠ ['.']) ⟨fun ⟨a, b, c⟩ => ⟨a, b, c⟩, fun ⟨a, b, c⟩ => ⟨a, b, c⟩⟩

/-- The path of a list of names; the root is the empty text. -/
def render (ns : List (List Char)) : List Char := ns.flatMap (fun n => '/' :: n)

@[simp] theorem render_nil : render [] = [] := rfl
@[simp] theorem render_cons (n : List Char) (ns : List (List Char)) : render (n :: ns) = '/' :: (n ++ render ns) := rfl
@[simp] theorem render_append (ns ms : List (List Char)) : render (ns ++ ms) = render ns ++ render ms :=
  List.flatMap_append

@[simp] theorem names_nil : names [] = [] := rfl

/-- **A separator cuts a path in two.** -/
theorem names_append (a b : List Char) : names (a ++ '/' :: b) = names a ++ names b := by
  unfold names
  rw [List.splitOn_append_cons_self, List.filter_append]

theorem names_of_isName {n : List Char} (h : IsName n) : names n = [n] := by
  unfold names
  rw [List.splitOn_eq_singleton h.whole, List.filter_cons_of_pos (by simp [h.nonempty, h.moves]), List.filter_nil]

theorem not_mem_of_mem_splitOn : ∀ {path piece : List Char}, piece ∈ path.splitOn '/' → '/' ∉ piece
  | [], piece, h => by
    rw [List.splitOn_nil, List.mem_singleton] at h
    simp [h]
  | c :: path, piece, h => by
    rw [List.splitOn_cons_eq_if_modifyHead] at h
    split at h
    · rcases List.mem_cons.1 h with rfl | h
      · exact List.not_mem_nil
      · exact not_mem_of_mem_splitOn h
    · rename_i hc
      cases hsplit : path.splitOn '/' with
      | nil => exact absurd hsplit (List.splitOn_ne_nil '/' path)
      | cons head tail =>
        rw [hsplit, List.modifyHead_cons] at h
        rcases List.mem_cons.1 h with rfl | h
        · have hhead : '/' ∉ head := not_mem_of_mem_splitOn (hsplit ▸ List.mem_cons_self)
          have hc : c ≠ '/' := by simpa using hc
          simp [hhead, hc.symm]
        · exact not_mem_of_mem_splitOn (hsplit ▸ List.mem_cons_of_mem head h)

theorem isName_of_mem_names {path n : List Char} (h : n ∈ names path) : IsName n := by
  obtain ⟨hmem, hn⟩ := List.mem_filter.1 h
  obtain ⟨hnonempty, hmoves⟩ := of_decide_eq_true hn
  exact ⟨hnonempty, not_mem_of_mem_splitOn hmem, hmoves⟩

theorem names_append_render : ∀ {ns : List (List Char)} (a : List Char), (∀ n ∈ ns, IsName n) →
    names (a ++ render ns) = names a ++ ns
  | [], a, _ => by simp
  | n :: ns, a, h => by
    have hn := h n List.mem_cons_self
    rw [render_cons, ← List.cons_append, ← List.append_assoc,
      names_append_render _ (fun m hm => h m (List.mem_cons_of_mem n hm)), names_append, names_of_isName hn,
      List.append_assoc, List.singleton_append]

/-- **What is rendered is read back.** -/
theorem names_render {ns : List (List Char)} (h : ∀ n ∈ ns, IsName n) : names (render ns) = ns := by
  simpa using names_append_render [] h

/-- **Below a directory, as text**: the path begins with the directory and a separator exactly if its names go on where
the directory's end. -/
theorem starts_below_iff {ns ms : List (List Char)} (hns : ∀ n ∈ ns, IsName n) (hms : ∀ m ∈ ms, IsName m) :
    render ns ++ ['/'] <+: render ms ↔ ∃ n rest, ms = ns ++ n :: rest := by
  constructor
  · rintro ⟨t, ht⟩
    have hread : ms = ns ++ names t := by
      rw [← names_render hms, ← ht, List.append_assoc, List.singleton_append, names_append, names_render hns]
    cases hrest : names t with
    | nil =>
      -- then the two are one directory, and its text is longer than itself
      rw [hrest, List.append_nil] at hread
      have hlen := congrArg List.length ht
      rw [hread, List.length_append, List.length_append, List.length_singleton] at hlen
      omega
    | cons n rest => exact ⟨n, rest, hrest ▸ hread⟩
  · rintro ⟨n, rest, rfl⟩
    exact ⟨n ++ render rest, by simp⟩

/-! ## Going up -/

def up : List Char := ['.', '.']

def enter (above : List (List Char)) (n : List Char) : List (List Char) :=
  if n = up then above.dropLast else above ++ [n]

/-- Where a path leads from the root. -/
def resolve (ns : List (List Char)) : List (List Char) := ns.foldl enter []

theorem resolve_append (ns ms : List (List Char)) : resolve (ns ++ ms) = ms.foldl enter (resolve ns) :=
  List.foldl_append

/-- Names that do not go up are entered one after another. -/
theorem foldl_enter : ∀ {ns : List (List Char)} (above : List (List Char)), (∀ n ∈ ns, n ≠ up) →
    ns.foldl enter above = above ++ ns
  | [], above, _ => by simp
  | n :: ns, above, h => by
    rw [List.foldl_cons, enter, if_neg (h n List.mem_cons_self),
      foldl_enter _ (fun m hm => h m (List.mem_cons_of_mem n hm)), List.append_assoc, List.singleton_append]

theorem mem_foldl_enter : ∀ {ns above : List (List Char)} {m : List Char}, m ∈ ns.foldl enter above →
    m ∈ above ∨ m ∈ ns ∧ m ≠ up
  | [], above, m, h => .inl h
  | n :: ns, above, m, h => by
    rcases @mem_foldl_enter ns _ _ h with h | ⟨h, hm⟩
    · unfold enter at h
      split at h
      · exact .inl (List.dropLast_subset above h)
      · rename_i hn
        rcases List.mem_append.1 h with h | h
        · exact .inl h
        · cases List.mem_singleton.1 h
          exact .inr ⟨List.mem_cons_self, hn⟩
    · exact .inr ⟨List.mem_cons_of_mem n h, hm⟩

/-- **Nothing that was resolved goes up.** -/
theorem mem_resolve {ns : List (List Char)} {m : List Char} (h : m ∈ resolve ns) : m ∈ ns ∧ m ≠ up :=
  (mem_foldl_enter h).resolve_left List.not_mem_nil

theorem isName_of_mem_resolve {path n : List Char} (h : n ∈ resolve (names path)) : IsName n :=
  isName_of_mem_names (mem_resolve h).1

theorem resolve_resolve (ns : List (List Char)) : resolve (resolve ns) = resolve ns := by
  have h := foldl_enter [] fun n hn => (@mem_resolve ns n hn).2
  simpa [resolve] using h

/-! ## Texts of paths -/

def isAbsolute (path : List Char) : Bool := path.head? == some '/'

/-- The last name, unless it goes up. -/
def fileName (path : List Char) : Option (List Char) := (names path).getLast?.filter (fun n => n ≠ up)

/-- The second path from the first: a path from the root replaces what is before it. -/
def combine (a b : List Char) : List Char :=
  if a = [] ∨ isAbsolute b then b
  else if b = [] then a
  else if a.getLast? = some '/' then a ++ b
  else a ++ '/' :: b

theorem names_combine {a b : List Char} (hb : isAbsolute b = false) : names (combine a b) = names a ++ names b := by
  unfold combine
  split
  · rename_i h
    rcases h with rfl | h
    · rfl
    · rw [hb] at h
      cases h
  split
  · rename_i h
    rw [h]
    simp
  split
  · rename_i h
    obtain ⟨l, rfl⟩ := List.getLast?_eq_some_iff.1 h
    rw [List.append_assoc, List.singleton_append, names_append, names_append]
    simp
  · exact names_append a b

/-- The full text of a path from the root: without detours, and with a separator at its end where it had one. -/
def fullPath (path : List Char) : List Char :=
  let ns := resolve (names path)
  if ns = [] then ['/'] else render ns ++ if path.getLast? = some '/' then ['/'] else []

theorem names_fullPath (path : List Char) : names (fullPath path) = resolve (names path) := by
  have hns : ∀ n ∈ resolve (names path), IsName n := fun n hn => isName_of_mem_resolve hn
  unfold fullPath
  simp only
  split
  · rename_i h
    rw [h]
    rfl
  · split
    · rw [names_append, names_render hns]
      simp
    · rw [List.append_nil, names_render hns]

theorem isAbsolute_fullPath (path : List Char) : isAbsolute (fullPath path) = true := by
  unfold fullPath
  simp only
  split
  · rfl
  · rename_i h
    cases hns : resolve (names path) with
    | nil => exact absurd hns h
    | cons n ns => rfl

/-- The full text of any path, in a directory. -/
def fullPathIn (directory path : List Char) : List Char :=
  fullPath (if isAbsolute path then path else combine directory path)

/-- What is combined with a path from the root is one. -/
theorem isAbsolute_combine {a b : List Char} (ha : isAbsolute a = true) : isAbsolute (combine a b) = true := by
  have hne : a ≠ [] := by rintro rfl; cases ha
  obtain ⟨c, a', rfl⟩ := List.exists_cons_of_ne_nil hne
  unfold combine
  split
  · rename_i h
    exact h.resolve_left hne
  split
  · exact ha
  split <;> exact ha

end UnixPath
