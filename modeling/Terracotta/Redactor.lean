import Terracotta.Replacement
import Terracotta.Text
/-!
# Redaction of diagnostic texts (`Diagnostics/SensitiveDataRedactor.cs`)

Four patterns are replaced one after another, the private keys last.  Whether a key block goes depends on what the passes
for tokens left of its markers.
-/
namespace Terracotta

open Regex (foldCase word Masked)

/-- What `\b` takes for word characters; .NET's table is a parameter beyond ASCII. -/
structure WordTable where
  isWord : Char → Bool
  ascii : ∀ c : Char, c.toNat < 128 → isWord c = (c.isAlphanum || c == '_')

namespace SensitiveDataRedactor

def redacted : List Char := "[REDACTED]".toList

def githubTokenPattern : Regex.Pattern where
  lead := .eps
  tail := .seq (word id "github_pat_".toList) (.rep (fun c => c.isAlphanum || c == '_') 1 none false)

def bearerTokenPattern : Regex.Pattern where
  lead := .seq .bound (.seq (word foldCase "Bearer".toList) (.rep Text.isWhitespace 1 none false))
  tail := .rep (fun c => (foldCase c).isAlphanum || "._~+/=-".toList.contains c) 1 none false

def secretName : Regex.Node :=
  .alt (word foldCase "token".toList) (.alt (word foldCase "auth-token".toList)
    (.alt (word foldCase "authentication-token".toList) (.alt (word foldCase "private-key".toList)
      (word foldCase "room-key".toList))))

def namedSecretPattern : Regex.Pattern where
  lead := .seq .bound (.seq secretName (.seq (.rep Text.isWhitespace 0 none false)
    (.seq (.one fun c => c == ':' || c == '=') (.rep Text.isWhitespace 0 none false))))
  tail := .rep (fun c => !Text.isWhitespace c && c != ',' && c != ';') 1 none false

/-- The line that opens or closes a block. -/
def keyLine (kind : List Char) : Regex.Node :=
  .seq (word id ("-----".toList ++ kind)) (.seq (.rep (· != '-') 0 none false) (word id "PRIVATE KEY-----".toList))

def privateKeyPattern : Regex.Pattern where
  lead := .eps
  tail := .seq (keyLine "BEGIN ".toList) (.seq (.rep (fun _ => true) 0 none true) (keyLine "END ".toList))

section

variable (words : WordTable)

/-- The passes ahead of that for private keys. -/
def redactTokens (text : List Char) : List Char :=
  let text := githubTokenPattern.replace words.isWord redacted false text
  let text := bearerTokenPattern.replace words.isWord redacted false text
  namedSecretPattern.replace words.isWord redacted false text

/-- `Redact`, but for the time limit of a match. -/
def redact : Option String → String
  | none => ""
  | some value =>
    if value = "" then ""
    else String.ofList (privateKeyPattern.replace words.isWord redacted false (redactTokens words value.toList))

end

/-! ## The passes for tokens -/

/-- A text that ends like no part of a token's lead. -/
def Shut (x : List Char) : Prop :=
  ∃ x₀ u v, x = x₀ ++ [u, v] ∧ foldCase u ≠ 'e' ∧ Text.isWhitespace v = false ∧ v ≠ ':' ∧ v ≠ '='

theorem not_word_blank (words : WordTable) : words.isWord ' ' = false ∧ words.isWord '-' = false :=
  ⟨words.ascii ' ' (by decide), words.ascii '-' (by decide)⟩

/-- A nonempty rest of a shut text has a last character that is no white space. -/
theorem Shut.not_space {x u : List Char} (h : Shut x) (hu : u <:+ x) (hne : u ≠ []) :
    ∃ c ∈ u, Text.isWhitespace c = false := by
  obtain ⟨x₀, a, v, rfl, -, hspace, -⟩ := h
  have hlast : u.getLast hne = v := by
    rw [hu.getLast hne]
    simp
  exact ⟨v, hlast ▸ List.getLast_mem hne, hspace⟩

/-- A shut text ends with no word whose last letter but one is `e`. -/
theorem Shut.not_word {x w : List Char} {c : Char} (h : Shut x) (x' : List Char) (hw : w.map foldCase <:+ x.map foldCase) :
    w.map foldCase ≠ x' ++ ['e', c] := by
  intro hword
  obtain ⟨x₀, u, v, rfl, hu, -⟩ := h
  rw [hword, List.map_append] at hw
  obtain ⟨z, hz⟩ := hw
  rw [← List.append_assoc] at hz
  have hlast := (List.append_inj' hz rfl).2
  exact hu (List.cons.inj hlast).1.symm

/-- A rest of a shut text does not end in a separator. -/
theorem Shut.not_separator {x u : List Char} {c : Char} (h : Shut x) (hu : u ++ [c] <:+ x) : c ≠ ':' ∧ c ≠ '=' := by
  obtain ⟨x₀, a, v, rfl, -, -, hcolon, hequals⟩ := h
  obtain ⟨z, hz⟩ := hu
  have hsplit : (z ++ u) ++ [c] = (x₀ ++ [a]) ++ [v] := by simp [← hz]
  have hlast := (List.append_inj' hsplit rfl).2
  cases (List.cons.inj hlast).1
  exact ⟨hcolon, hequals⟩

/-- A mark at the end of a text, or one character before it, leaves it shut. -/
theorem Shut.masked {x y : List Char} (h : Shut x) (hmasked : Masked redacted x y) : Shut y := by
  obtain ⟨x₀, u, v, hx, hu, hv⟩ := h
  have hmark : redacted = "[REDACTE".toList ++ ['D', ']'] := by decide
  obtain ⟨y₀, e, rfl, he⟩ := hmasked.last_two hmark hx
  rcases he with rfl | rfl | rfl
  · exact ⟨y₀, u, v, rfl, hu, hv⟩
  · exact ⟨y₀, ']', v, rfl, by decide, hv⟩
  · exact ⟨y₀, 'D', ']', rfl, by decide, by decide, by decide, by decide⟩

section

variable {words : WordTable} {before : Bool} {x u : List Char} (y : List Char)

theorem github_local (u : List Char) : githubTokenPattern.matchAt words.isWord before (u ++ ' ' :: y) =
    (githubTokenPattern.matchAt words.isWord before u).map (Regex.Found.extend (' ' :: y)) :=
  Regex.Pattern.matchAt_local (.of_avoids rfl (not_word_blank words).1 _ _ _)
    fun e _ => .of_avoids (by decide) (not_word_blank words).1 _ _ _

/-- Behind a word that a shut text cannot end with, something is left. -/
theorem Shut.rest_ne_nil {w : List Char} {c : Char} {x' : List Char} {e : List Char × List Char} (h : Shut x)
    (hu : u <:+ x) (hword : w.map foldCase = x' ++ ['e', c])
    (he : e ∈ (word foldCase w).ends words.isWord before u) : e.2 ≠ [] := by
  intro hnil
  have happend := Regex.ends_append words.isWord he
  rw [hnil, List.append_nil] at happend
  have hfold := Regex.mem_ends_word words.isWord he
  rw [happend] at hfold
  exact h.not_word x' (hu.map foldCase) (hfold.trans hword)

theorem bearer_local (h : Shut x) (hu : u <:+ x) : bearerTokenPattern.matchAt words.isWord before (u ++ ' ' :: y) =
    (bearerTokenPattern.matchAt words.isWord before u).map (Regex.Found.extend (' ' :: y)) := by
  have hblank := (not_word_blank words).1
  refine Regex.Pattern.matchAt_local (.seq (.of_avoids rfl hblank _ _ _) fun e he =>
    .seq (.of_avoids (by decide) hblank _ _ _) fun e' he' => .rep (.inl ?_)) fun e _ =>
    .of_avoids (by decide) hblank _ _ _
  have hsuffix := (Regex.ends_suffix words.isWord he).trans hu
  have hne := h.rest_ne_nil hsuffix (by decide : _ = "bear".toList ++ ['e', 'r']) he'
  exact h.not_space ((Regex.ends_suffix words.isWord he').trans hsuffix) hne

theorem secretName_rest (h : Shut x) (hu : u <:+ x) {e : List Char × List Char}
    (he : e ∈ secretName.ends words.isWord before u) : e.2 ≠ [] := by
  rcases List.mem_append.1 he with he | he
  · exact h.rest_ne_nil hu (by decide : _ = "tok".toList ++ ['e', 'n']) he
  rcases List.mem_append.1 he with he | he
  · exact h.rest_ne_nil hu (by decide : _ = "auth-tok".toList ++ ['e', 'n']) he
  rcases List.mem_append.1 he with he | he
  · exact h.rest_ne_nil hu (by decide : _ = "authentication-tok".toList ++ ['e', 'n']) he
  rcases List.mem_append.1 he with he | he
  · exact h.rest_ne_nil hu (by decide : _ = "private-k".toList ++ ['e', 'y']) he
  · exact h.rest_ne_nil hu (by decide : _ = "room-k".toList ++ ['e', 'y']) he

theorem named_local (h : Shut x) (hu : u <:+ x) : namedSecretPattern.matchAt words.isWord before (u ++ ' ' :: y) =
    (namedSecretPattern.matchAt words.isWord before u).map (Regex.Found.extend (' ' :: y)) := by
  have hblank := (not_word_blank words).1
  refine Regex.Pattern.matchAt_local (.seq (.of_avoids rfl hblank _ _ _) fun e he =>
    .seq (.of_avoids (by decide) hblank _ _ _) fun e₁ he₁ => .seq (.rep (.inl ?_)) fun e₂ he₂ =>
    .seq (.of_avoids rfl hblank _ _ _) fun e₃ he₃ => .rep (.inl ?_)) fun e _ =>
    .of_avoids (by decide) hblank _ _ _
  · have hsuffix := (Regex.ends_suffix words.isWord he).trans hu
    exact h.not_space ((Regex.ends_suffix words.isWord he₁).trans hsuffix) (secretName_rest h hsuffix he₁)
  · have hsuffix := (Regex.ends_suffix words.isWord he₂).trans ((Regex.ends_suffix words.isWord he₁).trans
      ((Regex.ends_suffix words.isWord he).trans hu))
    refine h.not_space ((Regex.ends_suffix words.isWord he₃).trans hsuffix) fun hnil => ?_
    -- the separator would be the last character
    obtain ⟨r, hr⟩ : ∃ r, e₂.2 = r := ⟨_, rfl⟩
    rw [hr] at he₃ hsuffix
    cases r with
    | nil => cases he₃
    | cons c r =>
      simp only [Regex.ends_one_cons] at he₃
      split at he₃
      · rename_i hsep
        cases List.mem_singleton.1 he₃
        subst hnil
        have hnot := h.not_separator (u := []) hsuffix
        simp only [Bool.or_eq_true, beq_iff_eq] at hsep
        exact hsep.elim hnot.1 hnot.2
      · cases he₃

theorem replace_blank {p : Regex.Pattern} (hwidth : 0 < p.width) (hstart : p.starts ' ' = false)
    (hlocal : ∀ before u, u <:+ x → p.matchAt words.isWord before (u ++ ' ' :: y) =
      (p.matchAt words.isWord before u).map (Regex.Found.extend (' ' :: y))) :
    p.replace words.isWord redacted false (x ++ ' ' :: y) =
      p.replace words.isWord redacted false x ++ ' ' :: p.replace words.isWord redacted false y := by
  rw [Regex.Pattern.replace_append hwidth fun before u hu _ => hlocal before u hu]
  have hlast : ∀ before, Regex.wordLast words.isWord before [' '] = false := fun _ => (not_word_blank words).1
  have hblank : p.replace words.isWord redacted (Regex.wordLast words.isWord false x) ([' '] ++ y) =
      [' '] ++ p.replace words.isWord redacted (Regex.wordLast words.isWord (Regex.wordLast words.isWord false x) [' ']) y :=
    Regex.Pattern.replace_append_of_starts hwidth (by simpa using hstart)
  rw [hlast] at hblank
  exact congrArg (p.replace words.isWord redacted false x ++ ·) hblank

/-- A blank behind a shut text parts what is redacted. -/
theorem redactTokens_blank (h : Shut x) :
    redactTokens words (x ++ ' ' :: y) = redactTokens words x ++ ' ' :: redactTokens words y := by
  have hgithub := h.masked (githubTokenPattern.masked_replace words.isWord redacted false x (by decide))
  have hbearer := hgithub.masked (bearerTokenPattern.masked_replace words.isWord redacted false _ (by decide))
  simp only [redactTokens]
  rw [replace_blank y (by decide) (by decide) fun before u _ => github_local y u,
    replace_blank _ (by decide) (by decide) fun before u hu => bearer_local _ hgithub hu,
    replace_blank _ (by decide) (by decide) fun before u hu => named_local _ hbearer hu]

end

/-! ### What the passes leave -/

section

variable (words : WordTable) {text : List Char}

/-- What masking keeps, the three passes keep. -/
theorem redactTokens_keeps {P : List Char → Prop} (hstep : ∀ {x y}, Masked redacted x y → P x → P y) (h : P text) :
    P (redactTokens words text) := by
  have hgithub := hstep (githubTokenPattern.masked_replace words.isWord redacted false text (by decide)) h
  have hbearer := hstep (bearerTokenPattern.masked_replace words.isWord redacted false _ (by decide)) hgithub
  exact hstep (namedSecretPattern.masked_replace words.isWord redacted false _ (by decide)) hbearer

theorem redactTokens_mem {c : Char} : c ∈ redactTokens words text → c ∈ text ∨ c ∈ redacted := by
  refine redactTokens_keeps words (P := fun y => c ∈ y → c ∈ text ∨ c ∈ redacted) (fun hmasked hx hc => ?_) .inl
  exact (hmasked.mem hc).elim hx .inr

/-- A text without brackets that is longer than the word in a mark. -/
structure Plain (w : List Char) : Prop where
  opening : '[' ∉ w
  closing : ']' ∉ w
  long : 8 < w.length

theorem Plain.infix_of_masked {w x y : List Char} (hw : Plain w) (h : Masked redacted x y) (hy : w <:+: y) : w <:+: x :=
  h.infix_of_infix (by decide : redacted = '[' :: ("REDACTED".toList ++ [']'])) hw.opening hw.closing hw.long hy

theorem redactTokens_head? (text : List Char) :
    (redactTokens words text).head? = text.head? ∨ (redactTokens words text).head? = some '[' := by
  refine redactTokens_keeps words (P := fun y => y.head? = text.head? ∨ y.head? = some '[') (fun hmasked hx => ?_) (.inl rfl)
  rcases hmasked.head? (by decide) with h | h
  · rwa [h]
  · exact .inr h

theorem redactTokens_last {c d : Char} {x₀ : List Char} (htext : text = x₀ ++ [c, d]) :
    ∃ y₀ e, redactTokens words text = y₀ ++ [e] ∧ (e = d ∨ e = ']') := by
  have hlast : ∃ y₀ u v, redactTokens words text = y₀ ++ [u, v] ∧ (v = d ∨ v = ']') := by
    refine redactTokens_keeps words (P := fun y => ∃ y₀ u v, y = y₀ ++ [u, v] ∧ (v = d ∨ v = ']')) ?_
      ⟨x₀, c, d, htext, .inl rfl⟩
    rintro x y hmasked ⟨x₀, u, v, hx, hv⟩
    obtain ⟨y₀, e, rfl, he⟩ := hmasked.last_two (by decide : redacted = "[REDACTE".toList ++ ['D', ']']) hx
    rcases he with rfl | rfl | rfl
    · exact ⟨y₀, u, v, rfl, hv⟩
    · exact ⟨y₀, ']', v, rfl, hv⟩
    · exact ⟨y₀, 'D', ']', rfl, .inr rfl⟩
  obtain ⟨y₀, u, v, hy, hv⟩ := hlast
  exact ⟨y₀ ++ [u], v, by rw [hy, List.append_assoc]; rfl, hv⟩

theorem redactTokens_eq_or (text : List Char) : redactTokens words text = text ∨ ']' ∈ redactTokens words text := by
  refine redactTokens_keeps words (P := fun y => y = text ∨ ']' ∈ y) (fun hmasked hx => ?_) (.inl rfl)
  rcases hmasked.eq_or_mark_infix with h | h
  · rwa [h]
  · exact .inr (h.subset (by decide))

end

end SensitiveDataRedactor

end Terracotta
