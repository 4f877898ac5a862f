import Terracotta.Diagnostics
/-!
# Tokens in front of a marker

What a pass for tokens takes: a lead, and behind it all characters that the token may have.  A text that ends in such
characters lets the token go on into a marker behind it; any other leaves the marker as it is.
-/
namespace Terracotta

open Regex (foldCase wordLast Masked Found Sealed)
open LanAddressResolver (foldCase_of_not_upper foldCase_space)

namespace SensitiveDataRedactor

/-! ## Tokens -/

/-- What the passes ahead of that for private keys look for. -/
inductive Token where
  | github
  | bearer
  | named
deriving DecidableEq, Repr

def secretNames : List String := ["token", "auth-token", "authentication-token", "private-key", "room-key"]

/-- What stands in front of a secret: its name and a separator. -/
structure NamedLead (name s : List Char) (separator : Char) (s' : List Char) : Prop where
  name : ∃ w ∈ secretNames, name.map foldCase = w.toList.map foldCase
  space : ∀ c ∈ s, Text.isWhitespace c = true
  separator : separator = ':' ∨ separator = '='
  space' : ∀ c ∈ s', Text.isWhitespace c = true

namespace Token

def pattern : Token → Regex.Pattern
  | .github => githubTokenPattern
  | .bearer => bearerTokenPattern
  | .named => namedSecretPattern

/-- The characters of a token. -/
def value : Token → Char → Bool
  | .github, c => c.isAlphanum || c == '_'
  | .bearer, c => bearerChar c
  | .named, c => !Text.isWhitespace c && c != ',' && c != ';'

/-- What a token stands behind, or starts with. -/
def Lead : Token → List Char → Prop
  | .github, l => l = "github_pat_".toList
  | .bearer, l => ∃ b ws, l = b ++ ws ∧ BearerLead b ws
  | .named, l => ∃ name s separator s', l = name ++ (s ++ separator :: s') ∧ NamedLead name s separator s'

/-- Behind a lead, a text goes on to its end with characters of the token. -/
def Ends (words : WordTable) (k : Token) (text : List Char) : Prop :=
  ∃ front lead rest, text = front ++ (lead ++ rest) ∧ (k ≠ .github → wordLast words.isWord false front = false) ∧
    k.Lead lead ∧ ∀ c ∈ rest, k.value c = true

end Token

/-- A token of the text goes on with `c` behind it. -/
def Reaches (words : WordTable) (text : List Char) (c : Char) : Prop :=
  ∃ k : Token, k.Ends words text ∧ k.value c = true

/-! ### Characters -/

/-- What a lead may end with. -/
def leadEnd (c : Char) : Bool := c == '_' || Text.isWhitespace c || c == ':' || c == '='

theorem alphanum_of_foldCase {c : Char} (h : (foldCase c).isAlphanum = true) (hk : foldCase c ≠ 'k') :
    c.isAlphanum = true := by
  cases hupper : c.isUpper with
  | false => rwa [foldCase_of_not_upper hupper (by rintro rfl; exact hk (by decide))] at h
  | true => simp [Char.isAlphanum, Char.isAlpha, hupper]

theorem isWord_of_alphanum (words : WordTable) {c : Char} (h : c.isAlphanum = true) : words.isWord c = true := by
  have hn : c.toNat < 128 := by
    have hranges : (65 ≤ c.toNat ∧ c.toNat ≤ 90 ∨ 97 ≤ c.toNat ∧ c.toNat ≤ 122) ∨ 48 ≤ c.toNat ∧ c.toNat ≤ 57 := by
      simpa [Char.isAlphanum, Char.isAlpha, Char.isUpper, Char.isLower, Char.isDigit, UInt32.le_iff_toNat_le] using h
    omega
  rw [words.ascii c hn, h, Bool.true_or]

theorem secretNames_head : ∀ w ∈ secretNames, ∃ c l, w.toList.map foldCase = c :: l ∧ c.isAlphanum = true ∧ c ≠ 'k' := by
  intro w hw
  have hall : ∀ w ∈ secretNames, (w.toList.map foldCase).head?.any (fun c => c.isAlphanum && c != 'k') = true := by decide
  have hone := hall w hw
  cases hmap : w.toList.map foldCase with
  | nil => rw [hmap] at hone; cases hone
  | cons c l =>
    rw [hmap, List.head?_cons, Option.any_some, Bool.and_eq_true, bne_iff_ne] at hone
    exact ⟨c, l, rfl, hone⟩

theorem NamedLead.head {name s s' : List Char} {separator : Char} (h : NamedLead name s separator s') :
    ∃ c l, name = c :: l ∧ c.isAlphanum = true := by
  obtain ⟨w, hw, hname⟩ := h.name
  obtain ⟨c, l, hmap, hc, hk⟩ := secretNames_head w hw
  rw [hmap] at hname
  cases name with
  | nil => cases hname
  | cons d name =>
    have hd : foldCase d = c := (List.cons.inj hname).1
    exact ⟨d, name, rfl, alphanum_of_foldCase (hd ▸ hc) (hd ▸ hk)⟩

theorem Token.Lead.head {k : Token} {lead : List Char} (h : k.Lead lead) : ∃ c l, lead = c :: l ∧ c.isAlphanum = true := by
  cases k with
  | github => exact ⟨'g', "ithub_pat_".toList, h.trans (by decide), by decide⟩
  | bearer =>
    obtain ⟨b, ws, rfl, hlead⟩ := h
    obtain ⟨c, b, rfl, hc⟩ := hlead.head
    refine ⟨c, b ++ ws, rfl, ?_⟩
    rcases hc with rfl | rfl <;> decide
  | named =>
    obtain ⟨name, s, separator, s', rfl, hlead⟩ := h
    obtain ⟨c, l, rfl, hc⟩ := hlead.head
    exact ⟨c, _, rfl, hc⟩

theorem Token.Lead.last {k : Token} {lead : List Char} (h : k.Lead lead) : ∃ l d, lead = l ++ [d] ∧ leadEnd d = true := by
  have hspace : ∀ l ws : List Char, ws ≠ [] → (∀ c ∈ ws, Text.isWhitespace c = true) →
      ∃ l' d, l ++ ws = l' ++ [d] ∧ leadEnd d = true := by
    intro l ws hne hws
    refine ⟨l ++ ws.dropLast, ws.getLast hne, by rw [List.append_assoc, List.dropLast_append_getLast hne], ?_⟩
    simp [leadEnd, hws _ (List.getLast_mem hne)]
  cases k with
  | github => exact ⟨"github_pat".toList, '_', h.trans (by decide), by decide⟩
  | bearer =>
    obtain ⟨b, ws, rfl, hlead⟩ := h
    exact hspace b ws hlead.some hlead.space
  | named =>
    obtain ⟨name, s, separator, s', rfl, hlead⟩ := h
    by_cases hs' : s' = []
    · refine ⟨name ++ s, separator, by rw [hs', List.append_assoc], ?_⟩
      rcases hlead.separator with rfl | rfl <;> decide
    · have hsplit : name ++ (s ++ separator :: s') = (name ++ (s ++ [separator])) ++ s' := by
        simp only [List.append_assoc, List.singleton_append]
      rw [hsplit]
      exact hspace _ s' hs' hlead.space'

theorem NamedLead.takeWhile_space {name s s' : List Char} {separator : Char} (h : NamedLead name s separator s')
    (y : List Char) : (s ++ separator :: y).takeWhile Text.isWhitespace = s := by
  have hstop : (separator :: y).takeWhile Text.isWhitespace = [] := by
    rcases h.separator with rfl | rfl <;> rfl
  rw [List.takeWhile_append_of_pos h.space, hstop, List.append_nil]

/-! ### Matches -/

section

variable {words : WordTable} {before : Bool} {s : List Char}

theorem mem_secretName {e : List Char × List Char} (h : e ∈ secretName.ends words.isWord before s) :
    ∃ w ∈ secretNames, e.1.map foldCase = w.toList.map foldCase := by
  rcases List.mem_append.1 h with h | h
  · exact ⟨"token", by decide, Regex.mem_ends_word _ h⟩
  rcases List.mem_append.1 h with h | h
  · exact ⟨"auth-token", by decide, Regex.mem_ends_word _ h⟩
  rcases List.mem_append.1 h with h | h
  · exact ⟨"authentication-token", by decide, Regex.mem_ends_word _ h⟩
  rcases List.mem_append.1 h with h | h
  · exact ⟨"private-key", by decide, Regex.mem_ends_word _ h⟩
  · exact ⟨"room-key", by decide, Regex.mem_ends_word _ h⟩

theorem named_of_match {m : Found} (h : namedSecretPattern.matchAt words.isWord before s = some m) :
    before = false ∧ Token.named.Lead m.lead ∧ m.tail ≠ [] ∧ ∀ c ∈ m.tail, Token.named.value c = true := by
  obtain ⟨hlead, htail⟩ := Regex.Pattern.mem_of_matchAt h
  obtain ⟨-, hone, -, hall⟩ := Regex.mem_splits ((Regex.mem_ends_rep _).1 htail)
  obtain ⟨x, hx, y, hy, hxy⟩ := (Regex.mem_ends_seq _).1 hlead
  obtain ⟨name, hname, y₁, hy₁, rfl⟩ := (Regex.mem_ends_seq _).1 hy
  obtain ⟨t, ht, y₂, hy₂, rfl⟩ := (Regex.mem_ends_seq _).1 hy₁
  obtain ⟨u, hu, t', ht', rfl⟩ := (Regex.mem_ends_seq _).1 hy₂
  obtain ⟨-, -, -, hspace⟩ := Regex.mem_splits ((Regex.mem_ends_rep _).1 ht)
  obtain ⟨-, -, -, hspace'⟩ := Regex.mem_splits ((Regex.mem_ends_rep _).1 ht')
  obtain ⟨separator, hsep, hu₁⟩ : ∃ separator, (separator = ':' ∨ separator = '=') ∧ u.1 = [separator] := by
    cases hrest : t.2 with
    | nil => rw [hrest] at hu; cases hu
    | cons c r =>
      rw [hrest] at hu
      simp only [Regex.ends_one_cons] at hu
      split at hu
      · rename_i hc
        cases List.mem_singleton.1 hu
        exact ⟨c, by simpa using hc, rfl⟩
      · cases hu
  have hnamed : NamedLead name.1 t.1 separator t'.1 := ⟨mem_secretName hname, hspace, hsep, hspace'⟩
  simp only [Regex.ends_bound] at hx
  split at hx
  · rename_i hbound
    cases List.mem_singleton.1 hx
    have hparts : m.lead = name.1 ++ (t.1 ++ separator :: t'.1) := by
      rw [← (Prod.mk.inj hxy).1, hu₁]
      rfl
    have hlead : Token.named.Lead m.lead := ⟨_, _, _, _, hparts, hnamed⟩
    obtain ⟨c, l, hc, halnum⟩ := hlead.head
    have hhead : (m.lead ++ (m.tail ++ m.rest)).head?.any words.isWord = true := by
      rw [hc]
      exact isWord_of_alphanum words halnum
    rw [Regex.Pattern.matchAt_append h] at hhead
    rw [hhead] at hbound
    exact ⟨by simpa using hbound, hlead, List.length_pos_iff.1 hone, hall⟩
  · cases hx

theorem github_parts {m : Found} (h : githubTokenPattern.matchAt words.isWord before s = some m) :
    ∃ value, m.lead = [] ∧ m.tail = "github_pat_".toList ++ value ∧ value ≠ [] ∧
      ∀ c ∈ value, Token.github.value c = true := by
  obtain ⟨hlead, htail⟩ := Regex.Pattern.mem_of_matchAt h
  obtain ⟨x, hx, y, hy, hxy⟩ := (Regex.mem_ends_seq _).1 htail
  obtain ⟨-, hone, -, hall⟩ := Regex.mem_splits ((Regex.mem_ends_rep _).1 hy)
  have hword := Regex.mem_ends_word _ hx
  rw [List.map_id, List.map_id] at hword
  exact ⟨y.1, (Prod.mk.inj (List.mem_singleton.1 hlead)).1, by rw [← (Prod.mk.inj hxy).1, hword],
    List.length_pos_iff.1 hone, hall⟩

/-- What a pass takes: characters of its token behind a lead, as many as there are. -/
structure Token.Takes (k : Token) (before : Bool) (m : Found) (lead value : List Char) : Prop where
  parts : m.lead ++ m.tail = lead ++ value
  leads : k.Lead lead
  front : m.lead <+: lead
  bound : k ≠ .github → before = false ∧ m.lead = lead
  some : value ≠ []
  values : ∀ c ∈ value, k.value c = true
  tail : ∀ c ∈ m.tail, k.value c = true
  stops : ∀ c ∈ m.rest.head?, k.value c = false

theorem Token.of_match {k : Token} {m : Found} (h : k.pattern.matchAt words.isWord before s = some m) :
    ∃ lead value, k.Takes before m lead value := by
  cases k with
  | github =>
    obtain ⟨value, hlead, htail, hsome, hvalue⟩ := github_parts h
    refine ⟨"github_pat_".toList, value, by rw [hlead, htail, List.nil_append], rfl, hlead ▸ List.nil_prefix,
      fun hk => absurd rfl hk, hsome, hvalue, ?_, Regex.Pattern.rest_of_greedy_seq rfl h⟩
    have hall : "github_pat_".toList.all Token.github.value = true := by decide
    intro c hc
    rw [htail] at hc
    exact (List.mem_append.1 hc).elim (List.all_eq_true.1 hall c) (hvalue c)
  | bearer =>
    obtain ⟨hbefore, ⟨b, ws, hlead, hbl⟩, hsome, hvalue⟩ := bearer_of_match h
    exact ⟨b ++ ws, m.tail, by rw [hlead], ⟨b, ws, rfl, hbl⟩, hlead ▸ List.prefix_rfl, fun _ => ⟨hbefore, hlead⟩, hsome,
      hvalue, hvalue, Regex.Pattern.rest_of_greedy rfl h⟩
  | named =>
    obtain ⟨hbefore, hlead, hsome, hvalue⟩ := named_of_match h
    exact ⟨m.lead, m.tail, rfl, hlead, List.prefix_rfl, fun _ => ⟨hbefore, rfl⟩, hsome, hvalue, hvalue,
      Regex.Pattern.rest_of_greedy rfl h⟩

end

/-! ## Passes one after another -/

theorem redacted_eq : redacted = '[' :: ("REDACTED".toList ++ [']']) := by decide

/-- `y` is what passes leave of `x`. -/
abbrev Passed : List Char → List Char → Prop := Relation.ReflTransGen (Masked redacted)

namespace Passed

variable {w x y x' y' y₁ y₂ : List Char}

theorem append (h : Passed x y) (h' : Passed x' y') : Passed (x ++ x') (y ++ y') := by
  have hleft : Passed (x ++ x') (y ++ x') := h.lift (· ++ x') fun _ _ hone => hone.append (Masked.refl x')
  exact hleft.trans (h'.lift (y ++ ·) fun _ _ hone => (Masked.refl y).append hone)

/-- Where passes leave a word, the text contains it. -/
theorem split (h : Passed x y) (hopen : '[' ∉ w) (hclose : ']' ∉ w) (hlong : 8 < w.length) (hy : y = y₁ ++ (w ++ y₂)) :
    ∃ x₁ x₂, x = x₁ ++ (w ++ x₂) ∧ Passed x₁ y₁ ∧ Passed x₂ y₂ := by
  induction h generalizing y₁ y₂ with
  | refl => exact ⟨y₁, y₂, hy, .refl, .refl⟩
  | tail _ hone ih =>
    have hinner : ¬ w <:+: "REDACTED".toList := fun hin => Nat.not_le_of_lt hlong hin.length_le
    obtain ⟨z₁, z₂, hz, h₁, h₂⟩ := hone.split redacted_eq hopen hclose hinner hy
    obtain ⟨x₁, x₂, hx, h₁', h₂'⟩ := ih hz
    exact ⟨x₁, x₂, hx, h₁'.tail h₁, h₂'.tail h₂⟩

theorem infix_of_infix (h : Passed x y) (hw : Plain w) (hy : w <:+: y) : w <:+: x := by
  induction h with
  | refl => exact hy
  | tail _ hone ih => exact ih (hw.infix_of_masked hone hy)

/-- A text that ends in a mark does so behind other passes. -/
theorem last (h : Passed (x ++ redacted) y) : ∃ y₀, y = y₀ ++ [']'] := by
  have hlast : ∃ y₀ u, y = y₀ ++ [u, ']'] := by
    induction h with
    | refl => exact ⟨x ++ "[REDACTE".toList, 'D', by rw [List.append_assoc]; exact congrArg (x ++ ·) (by decide)⟩
    | tail _ hone ih =>
      obtain ⟨y₀, u, hy⟩ := ih
      obtain ⟨z₀, e, rfl, he⟩ := hone.last_two (by decide : redacted = "[REDACTE".toList ++ ['D', ']']) hy
      rcases he with rfl | rfl | rfl
      · exact ⟨z₀, u, rfl⟩
      · exact ⟨z₀, ']', rfl⟩
      · exact ⟨z₀, 'D', rfl⟩
  obtain ⟨y₀, u, hy⟩ := hlast
  exact ⟨y₀ ++ [u], by rw [hy, List.append_assoc]; rfl⟩

end Passed

/-! ## A pass in front of a marker -/

/-- A lead that ends in no character of a marker is all in front of it. -/
theorem lead_in_front {x marker z l y : List Char} {d : Char} (hd : d ∉ marker)
    (h : x ++ marker = z ++ ((l ++ [d]) ++ y)) : ∃ v, x = z ++ ((l ++ [d]) ++ v) ∧ y = v ++ marker := by
  have hsplit : x ++ marker = (z ++ l) ++ d :: y := by
    rw [h]
    simp only [List.append_assoc, List.singleton_append]
  rcases List.append_eq_append_iff.1 hsplit with ⟨v, -, hmarker⟩ | ⟨v, hx, hbehind⟩
  · exact absurd (hmarker ▸ List.mem_append_right v List.mem_cons_self) hd
  cases v with
  | nil =>
    rw [List.nil_append] at hbehind
    exact absurd (hbehind ▸ List.mem_cons_self) hd
  | cons c v =>
    obtain ⟨rfl, hv⟩ := List.cons.inj hbehind
    exact ⟨v, by rw [hx]; simp only [List.append_assoc, List.singleton_append], hv⟩

section

variable {words : WordTable} {k k' : Token} {x y marker : List Char}

/-- A match in a text and a marker behind it has its lead in the text. -/
theorem Token.match_in_front {z : List Char} {m : Found} (hmarker : marker.any leadEnd = false)
    (hs : x ++ marker = z ++ (m.lead ++ (m.tail ++ m.rest)))
    (hm : k.pattern.matchAt words.isWord (wordLast words.isWord false z) (m.lead ++ (m.tail ++ m.rest)) = some m) :
    ∃ lead value v, k.Takes (wordLast words.isWord false z) m lead value ∧ x = z ++ (lead ++ v) ∧
      value ++ m.rest = v ++ marker := by
  obtain ⟨lead, value, ht⟩ := Token.of_match hm
  obtain ⟨l, d, hlast, hd⟩ := ht.leads.last
  have hd' : d ∉ marker := fun hmem => List.any_eq_false.1 hmarker d hmem hd
  rw [← List.append_assoc m.lead, ht.parts, List.append_assoc _ value, hlast] at hs
  obtain ⟨v, hx, hv⟩ := lead_in_front hd' hs
  exact ⟨lead, value, v, ht, hlast ▸ hx, hv⟩

end

/-! ## Texts that hold one token -/

/-- A token may start in the text at the end of `front`. -/
def Token.Opens (words : WordTable) (k : Token) (text front : List Char) : Prop :=
  ∃ lead rest, text = front ++ (lead ++ rest) ∧ (k ≠ .github → wordLast words.isWord false front = false) ∧ k.Lead lead

/-- Tokens may start in the text at one place at most. -/
def Sole (words : WordTable) (text : List Char) : Prop :=
  ∀ k k' front front', Token.Opens words k text front → Token.Opens words k' text front' → k = k' ∧ front = front'

/-- No token is all in the text. -/
def TokenFree (words : WordTable) (text : List Char) : Prop :=
  ∀ (k : Token) front lead c rest, text = front ++ (lead ++ c :: rest) →
    (k ≠ .github → wordLast words.isWord false front = false) → k.Lead lead → k.value c = false

/-! ### What a pass takes -/

theorem mem_ends_secretName (words : WordTable) (before : Bool) {name : List Char} (y : List Char)
    (h : ∃ w ∈ secretNames, name.map foldCase = w.toList.map foldCase) :
    (name, y) ∈ secretName.ends words.isWord before (name ++ y) := by
  obtain ⟨w, hw, hname⟩ := h
  have hmem := Regex.mem_ends_word_of_map words.isWord before y hname
  simp only [secretNames, List.mem_cons, List.not_mem_nil, or_false] at hw
  rcases hw with rfl | rfl | rfl | rfl | rfl
  · exact List.mem_append_left _ hmem
  · exact List.mem_append_right _ (List.mem_append_left _ hmem)
  · exact List.mem_append_right _ (List.mem_append_right _ (List.mem_append_left _ hmem))
  · exact List.mem_append_right _ (List.mem_append_right _ (List.mem_append_right _ (List.mem_append_left _ hmem)))
  · exact List.mem_append_right _ (List.mem_append_right _ (List.mem_append_right _ (List.mem_append_right _ hmem)))

theorem named_takes (words : WordTable) {name s s' : List Char} {separator c : Char} (h : NamedLead name s separator s')
    (hc : Token.named.value c = true) (y : List Char) :
    namedSecretPattern.matchAt words.isWord false (name ++ (s ++ separator :: s') ++ c :: y) ≠ none := by
  obtain ⟨d, l, hname, hd⟩ := h.head
  have happend : name ++ (s ++ separator :: s') ++ c :: y = name ++ (s ++ (separator :: (s' ++ c :: y))) := by
    simp only [List.append_assoc, List.cons_append]
  have hbound : ([], name ++ (s ++ (separator :: (s' ++ c :: y)))) ∈
      Regex.Node.bound.ends words.isWord false (name ++ (s ++ (separator :: (s' ++ c :: y)))) := by
    simp [Regex.ends_bound, hname, isWord_of_alphanum words hd]
  have hone : ([separator], s' ++ c :: y) ∈ (Regex.Node.one fun c => c == ':' || c == '=').ends words.isWord
      (wordLast words.isWord (wordLast words.isWord (wordLast words.isWord false []) name) s)
      (separator :: (s' ++ c :: y)) := by
    rcases h.separator with rfl | rfl <;> exact List.mem_singleton_self _
  rw [happend]
  refine Regex.Pattern.matchAt_ne_none_of_mem (e := (name ++ (s ++ ([separator] ++ s')), c :: y)) ?_
    ((Regex.mem_ends_rep (e := ([c], y)) _).2
      (Regex.mem_splits_of_least (fun x hx => by cases List.mem_singleton.1 hx; exact hc) (Nat.le_refl 1)))
  exact (Regex.mem_ends_seq _).2 ⟨_, hbound, _, (Regex.mem_ends_seq _).2 ⟨_,
    mem_ends_secretName words _ _ h.name, _, (Regex.mem_ends_seq _).2 ⟨_,
      (Regex.mem_ends_rep _).2 (Regex.mem_splits_of_all h.space), _, (Regex.mem_ends_seq _).2 ⟨_, hone, _,
        (Regex.mem_ends_rep _).2 (Regex.mem_splits_of_all h.space'), rfl⟩, rfl⟩, rfl⟩, rfl⟩

theorem Token.Lead.takes (words : WordTable) {k : Token} {lead : List Char} {before : Bool} {c : Char} (h : k.Lead lead)
    (hbound : k ≠ .github → before = false) (hc : k.value c = true) (y : List Char) :
    k.pattern.matchAt words.isWord before (lead ++ c :: y) ≠ none := by
  have hsplit : lead ++ c :: y = (lead ++ [c]) ++ y := by rw [List.append_assoc, List.singleton_append]
  cases k with
  | github =>
    rw [hsplit]
    exact github_takes ⟨c, congrArg (· ++ [c]) h, hc⟩ before y
  | bearer =>
    obtain ⟨b, ws, rfl, hlead⟩ := h
    rw [hbound nofun, hsplit]
    exact bearer_takes ⟨b, ws, c, List.append_assoc b ws [c], hlead, hc⟩ y
  | named =>
    obtain ⟨name, s, separator, s', rfl, hlead⟩ := h
    rw [hbound nofun]
    exact named_takes words hlead hc y

section

variable {words : WordTable} {k : Token} {x marker : List Char}

theorem Token.search_in_front {a : List Char} {m : Found} (hmarker : marker.any leadEnd = false)
    (h : k.pattern.search words.isWord false (x ++ marker) = some (a, m)) :
    ∃ lead value v, k.Takes (wordLast words.isWord false a) m lead value ∧ x = a ++ (lead ++ v) ∧
      value ++ m.rest = v ++ marker := by
  obtain ⟨hs, hm, -⟩ := Regex.Pattern.search_eq_some.1 h
  exact Token.match_in_front hmarker hs hm

theorem Token.replace_none (hmarker : marker.any leadEnd = false) (h : ∀ front, ¬ k.Opens words x front) :
    k.pattern.replace words.isWord redacted false (x ++ marker) = x ++ marker := by
  refine Regex.Pattern.replace_none ?_
  cases hsearch : k.pattern.search words.isWord false (x ++ marker) with
  | none => rfl
  | some e =>
    obtain ⟨a, m⟩ := e
    obtain ⟨lead, value, v, ht, hx, -⟩ := Token.search_in_front hmarker hsearch
    exact absurd ⟨lead, v, hx, fun hk => (ht.bound hk).1, ht.leads⟩ (h a)

theorem Token.Ends.opens (h : k.Ends words x) : ∃ front, k.Opens words x front := by
  obtain ⟨front, lead, rest, hx, hbound, hlead, -⟩ := h
  exact ⟨front, lead, rest, hx, hbound, hlead⟩

end

end SensitiveDataRedactor

end Terracotta
