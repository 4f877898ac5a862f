import Terracotta.Redactor
/-!
# Private keys in diagnostic texts

Where `PrivateKeyPattern` finds its blocks, and what it does behind the passes for tokens: a block is left where they took
its opening line, or its closing line and every other behind it.
-/
namespace Terracotta

open Regex (Masked Found)

namespace SensitiveDataRedactor

/-! ## Key lines -/

/-- A text that a key line's expression matches. -/
def KeyLine (kind o : List Char) : Prop :=
  ∃ u, '-' ∉ u ∧ o = "-----".toList ++ kind ++ (u ++ "PRIVATE KEY-----".toList)

def Opening : List Char → Prop := KeyLine "BEGIN ".toList

def Closing : List Char → Prop := KeyLine "END ".toList

section

variable {isWord : Char → Bool} {before : Bool} {s : List Char}

end

theorem length_dashes : "-----".toList.length = 5 := by decide

theorem privateKey_dashes : "PRIVATE KEY-----".toList = "PRIVATE KEY".toList ++ "-----".toList := by decide

theorem key_dashes : "KEY-----".toList = "KEY".toList ++ "-----".toList := by decide

/-- A key line is five dashes, a text without dashes, and five more. -/
theorem KeyLine.shape {kind o : List Char} (h : KeyLine kind o) (hkind : '-' ∉ kind) :
    ∃ i, i ≠ [] ∧ '-' ∉ i ∧ o = "-----".toList ++ (i ++ "-----".toList) := by
  obtain ⟨u, hu, rfl⟩ := h
  refine ⟨kind ++ (u ++ "PRIVATE KEY".toList), ?_, ?_, ?_⟩
  · refine List.append_ne_nil_of_right_ne_nil _ (List.append_ne_nil_of_right_ne_nil _ (by decide))
  · simp only [List.mem_append, not_or]
    exact ⟨hkind, hu, by decide⟩
  · rw [privateKey_dashes]
    simp only [List.append_assoc]

/-- Five dashes behind the start of a key line are those at its end, or behind it. -/
theorem dashes_behind {a i b a' y : List Char} (hi : i ≠ []) (hdash : '-' ∉ i)
    (h : a ++ ("-----".toList ++ (i ++ "-----".toList) ++ b) = a' ++ ("-----".toList ++ y)) (hlt : a.length < a'.length) :
    (a ++ ("-----".toList ++ (i ++ "-----".toList))).length ≤ a'.length + 5 := by
  have hdashes : ("-----".toList : List Char) = List.replicate 5 '-' := by decide
  rw [hdashes] at h ⊢
  have hleft : ∀ j, j < i.length →
      (a ++ (List.replicate 5 '-' ++ (i ++ List.replicate 5 '-') ++ b))[a.length + 5 + j]? ≠ some '-' := by
    intro j hj hget
    rw [List.getElem?_append_right (by omega), List.append_assoc, List.append_assoc,
      List.getElem?_append_right (by rw [List.length_replicate]; omega),
      List.getElem?_append_left (by rw [List.length_replicate]; omega)] at hget
    exact hdash (List.mem_of_getElem? hget)
  have hright : ∀ j, j < 5 → (a' ++ (List.replicate 5 '-' ++ y))[a'.length + j]? = some '-' := by
    intro j hj
    rw [List.getElem?_append_right (by omega), List.getElem?_append_left (by rw [List.length_replicate]; omega),
      List.getElem?_replicate, if_pos (by omega)]
  rw [h] at hleft
  have hpos := List.length_pos_iff.2 hi
  simp only [List.length_append, List.length_replicate]
  by_contra hgt
  by_cases hfirst : a'.length ≤ a.length + 5
  · have hsame : a.length + 5 + 0 = a'.length + (a.length + 5 - a'.length) := by omega
    exact hleft 0 hpos (by rw [hsame]; exact hright _ (by omega))
  · have hsame : a.length + 5 + (a'.length - (a.length + 5)) = a'.length + 0 := by omega
    exact hleft (a'.length - (a.length + 5)) (by omega) (by rw [hsame]; exact hright 0 (by omega))

theorem KeyLine.dashes_behind {kind o a b a' y : List Char} (ho : KeyLine kind o) (hkind : '-' ∉ kind)
    (h : a ++ (o ++ b) = a' ++ ("-----".toList ++ y)) (hlt : a.length < a'.length) :
    (a ++ o).length ≤ a'.length + 5 := by
  obtain ⟨i, hi, hdash, rfl⟩ := ho.shape hkind
  exact SensitiveDataRedactor.dashes_behind hi hdash h hlt

/-- Key lines that start at one place are one. -/
theorem KeyLine.eq_of_append {kind kind' o o' x y : List Char} (ho : KeyLine kind o) (ho' : KeyLine kind' o')
    (hkind : '-' ∉ kind) (hkind' : '-' ∉ kind') (h : o ++ x = o' ++ y) : o = o' := by
  obtain ⟨i, -, hdash, rfl⟩ := ho.shape hkind
  obtain ⟨i', -, hdash', rfl⟩ := ho'.shape hkind'
  have hinner : ∀ i : List Char, '-' ∉ i → ∀ z, (i ++ "-----".toList ++ z).takeWhile (· != '-') = i := by
    intro i hi z
    rw [List.append_assoc, List.takeWhile_append_of_pos fun c hc => bne_iff_ne.2 fun h : c = '-' => hi (h ▸ hc)]
    exact List.append_nil i
  have hbehind : i ++ "-----".toList ++ x = i' ++ "-----".toList ++ y := by
    simp only [List.append_assoc] at h ⊢
    exact List.append_cancel_left h
  have hsame : i = i' := by
    rw [← hinner i hdash x, hbehind, hinner i' hdash' y]
  rw [hsame]

/-! ## Blocks -/

/-- The first closing line of `x ++ (c ++ z)` is behind `x`. -/
def FirstClosing (x c z : List Char) : Prop :=
  Closing c ∧ ∀ x' c' z', Closing c' → x ++ (c ++ z) = x' ++ (c' ++ z') → x.length ≤ x'.length

section

variable {isWord : Char → Bool} {before : Bool} {s : List Char}

theorem dash_not_mem : '-' ∉ "BEGIN ".toList ∧ '-' ∉ "END ".toList := by decide

end

/-! ## What is behind a text -/

theorem KeyLine.starts {kind o : List Char} (h : KeyLine kind o) : ∃ r, o = "-----".toList ++ r := by
  obtain ⟨u, -, rfl⟩ := h
  exact ⟨kind ++ (u ++ "PRIVATE KEY-----".toList), by rw [List.append_assoc]⟩

theorem KeyLine.length {kind o : List Char} (h : KeyLine kind o) : 16 ≤ o.length := by
  obtain ⟨u, -, rfl⟩ := h
  have hkey : "PRIVATE KEY-----".toList.length = 16 := by decide
  simp only [List.length_append, hkey]
  omega

/-- A key line that starts in front of another ends in it. -/
theorem KeyLine.ends_in {kind kind' o o' a b a' b' : List Char} (ho : KeyLine kind o) (hkind : '-' ∉ kind)
    (ho' : KeyLine kind' o') (h : a ++ (o ++ b) = a' ++ (o' ++ b')) (hlt : a.length < a'.length) :
    ∃ q, a ++ (o ++ q) = a' ++ o' := by
  obtain ⟨r, hr⟩ := ho'.starts
  have hle := ho.dashes_behind hkind (y := r ++ b') (by rw [h, hr, List.append_assoc]) hlt
  have hlong := ho'.length
  have hin : a ++ o <+: a' ++ (o' ++ b') := ⟨b, by rw [List.append_assoc, h]⟩
  have hin' : a' ++ o' <+: a' ++ (o' ++ b') := ⟨b', by rw [List.append_assoc]⟩
  have hlength : (a' ++ o').length = a'.length + o'.length := List.length_append
  obtain ⟨q, hq⟩ := List.prefix_of_prefix_length_le hin hin' (by omega)
  exact ⟨q, by rw [← hq, List.append_assoc]⟩

theorem FirstClosing.extend {x c z : List Char} (h : FirstClosing x c z) (t : List Char) :
    FirstClosing x c (z ++ t) := by
  refine ⟨h.1, fun x' c' z' hc' hsame => ?_⟩
  by_contra hlt
  rw [Nat.not_le] at hlt
  obtain ⟨q, hq⟩ := hc'.ends_in dash_not_mem.2 h.1 hsame.symm hlt
  refine Nat.not_lt.2 (h.2 x' c' (q ++ z) hc' ?_) hlt
  have hboth := congrArg (· ++ z) hq
  simp only [List.append_assoc] at hboth
  exact hboth.symm

section

variable {isWord : Char → Bool} {before : Bool} {s : List Char}

end

/-! ## A block behind the passes for tokens -/

/-- The text up to a body: what is left up to the dashes and word of an opening line, of its label, and the end of it. -/
def headPart (A B : List Char) : List Char := A ++ ' ' :: (B ++ ' ' :: "KEY-----".toList)

/-- The text from a body on. -/
def tailPart (B C E : List Char) : List Char := C ++ ' ' :: (B ++ ' ' :: ("KEY-----".toList ++ E))

/-- What the passes leave of a label, and of a body with the dashes and word of its closing line. -/
structure Left (B C : List Char) : Prop where
  label : '-' ∉ B
  blank : ' ' ∉ C
  head : C.head? ≠ some '-'
  last : ∃ C₀ e, C = C₀ ++ [e] ∧ e ≠ 'N'
  word : C ≠ "END".toList

theorem takeWhile_blank {x y : List Char} (hx : ' ' ∉ x) : (x ++ ' ' :: y).takeWhile (· != ' ') = x := by
  rw [List.takeWhile_append_of_pos fun c hc => bne_iff_ne.2 fun h : c = ' ' => hx (h ▸ hc)]
  exact List.append_nil x

section

variable {A B C E a b m : List Char}

/-- **No key line lies across the place where a body starts.** -/
theorem Left.part (h : Left B C) {k : List Char} (hm : KeyLine (k ++ [' ']) m) (hk : '-' ∉ k) (hblank : ' ' ∉ k)
    (hC : C ≠ k) (heq : headPart A B ++ tailPart B C E = a ++ (m ++ b)) :
    (∃ q, headPart A B = a ++ (m ++ q) ∧ b = q ++ tailPart B C E) ∨
      ∃ q, a = headPart A B ++ q ∧ tailPart B C E = q ++ (m ++ b) := by
  rcases List.append_eq_append_iff.1 heq with ⟨q, ha, hV⟩ | ⟨q, hU, hmb⟩
  · exact .inr ⟨q, ha, hV⟩
  rcases List.append_eq_append_iff.1 hmb with ⟨w, rfl, hb⟩ | ⟨w, hmw, hV⟩
  · exact .inl ⟨w, hU, hb⟩
  cases w with
  | nil =>
    rw [List.append_nil] at hmw
    exact .inl ⟨[], by rw [List.append_nil, hmw, hU], hV.symm⟩
  | cons c w =>
    -- the line begins in front of the place and goes on behind it
    exfalso
    obtain ⟨u, hu, hshape⟩ := hm
    obtain ⟨C₀, e, hlast, -⟩ := h.last
    have hCne : C ≠ [] := by rw [hlast]; simp
    rcases Nat.lt_trichotomy q.length 5 with hlt | heq5 | hgt
    · have hdash : m[q.length]? = some '-' := by
        have hdashes : ("-----".toList : List Char) = List.replicate 5 '-' := by decide
        rw [hshape, hdashes, List.append_assoc, List.getElem?_append_left (by rw [List.length_replicate]; exact hlt),
          List.getElem?_replicate, if_pos hlt]
      rw [hmw, List.getElem?_append_right (Nat.le_refl _), Nat.sub_self, List.getElem?_cons_zero] at hdash
      refine h.head ?_
      rw [← List.head?_append_of_ne_nil C hCne, ← hdash]
      exact congrArg List.head? hV
    · have hq : q ++ c :: w = "-----".toList ++ (k ++ ' ' :: (u ++ "PRIVATE KEY-----".toList)) := by
        rw [← hmw, hshape]
        simp only [List.append_assoc, List.singleton_append]
      have hw := (List.append_inj hq heq5).2
      have hsame := congrArg (List.takeWhile (· != ' ')) hV
      rw [hw, List.append_assoc, List.cons_append, takeWhile_blank hblank, tailPart, takeWhile_blank h.blank] at hsame
      exact hC hsame
    · have hend : headPart A B = A ++ ' ' :: (B ++ ' ' :: "KEY".toList) ++ "-----".toList := by
        rw [headPart, key_dashes]
        simp only [List.append_assoc, List.cons_append]
      have hdash : '-' ∉ k ++ [' '] := by simp [hk]
      have hle := KeyLine.dashes_behind ⟨u, hu, hshape⟩ hdash (heq.symm.trans (by rw [hend, List.append_assoc])) (by
        have hlength := congrArg List.length (hU.symm.trans hend)
        simp only [List.length_append, length_dashes] at hlength ⊢
        omega)
      have hlength := congrArg List.length (hU.symm.trans hend)
      rw [hmw] at hle
      simp only [List.length_append, List.length_cons, length_dashes] at hlength hle
      omega

end

section

variable {words : WordTable} {A B C E : List Char}

/-- A text that a body may be: no marker, mark or label goes into it. -/
structure Secret (b : List Char) : Prop extends Plain b where
  blank : ' ' ∉ b
  dash : '-' ∉ b

end

/-! ## Redaction of a key block -/

def upToBody (pre label : List Char) : List Char :=
  pre ++ "-----BEGIN ".toList ++ label ++ "PRIVATE KEY-----".toList

def bodyOn (label body post : List Char) : List Char :=
  body ++ "-----END ".toList ++ label ++ "PRIVATE KEY-----".toList ++ post

/-- A text with a block whose body is of base64 and line breaks, and is nowhere else. -/
structure KeyText (text pre label body post : List Char) : Prop where
  text_eq : text = upToBody pre label ++ bodyOn label body post
  label_dash : '-' ∉ label
  base64 : ∀ c ∈ body, c.isAlphanum = true ∨ c ∈ ['+', '/', '=', '\n', '\r']
  long : 16 ≤ body.length
  not_pre : ¬ body <:+: pre
  not_label : ¬ body <:+: label
  not_post : ¬ body <:+: post

namespace KeyText

variable {text pre label body post : List Char}

theorem not_mem (h : KeyText text pre label body post) {c : Char} (hc : c.isAlphanum = false)
    (hother : c ∉ ['+', '/', '=', '\n', '\r']) : c ∉ body := by
  intro hmem
  rcases h.base64 c hmem with halnum | hlisted
  · rw [hc] at halnum
    cases halnum
  · exact hother hlisted

theorem secret (h : KeyText text pre label body post) : Secret body where
  opening := h.not_mem (by decide) (by decide)
  closing := h.not_mem (by decide) (by decide)
  long := Nat.lt_of_lt_of_le (by decide) h.long
  blank := h.not_mem (by decide) (by decide)
  dash := h.not_mem (by decide) (by decide)

theorem end_eq (body : List Char) : body ++ "-----END".toList = (body ++ "-----E".toList) ++ ['N', 'D'] := by
  rw [List.append_assoc]
  exact congrArg _ (by decide)

section

variable (words : WordTable)

theorem not_mem_redactTokens {c : Char} {x y : List Char} (hx : c ∉ x) (hy : c ∉ y) (hmark : c ∉ redacted) :
    c ∉ redactTokens words (x ++ y) := by
  intro hmem
  rcases redactTokens_mem words hmem with hmem | hmem
  · exact (List.mem_append.1 hmem).elim hx hy
  · exact hmark hmem

theorem left (h : KeyText text pre label body post) :
    Left (redactTokens words (label ++ "PRIVATE".toList)) (redactTokens words (body ++ "-----END".toList)) where
  label := not_mem_redactTokens words h.label_dash (by decide) (by decide)
  blank := not_mem_redactTokens words h.secret.blank (by decide) (by decide)
  head := by
    have hne : body ≠ [] := List.length_pos_iff.1 (Nat.lt_of_lt_of_le (by decide) h.long)
    intro hdash
    rcases redactTokens_head? words (body ++ "-----END".toList) with hhead | hhead
    · rw [hdash, List.head?_append_of_ne_nil body hne] at hhead
      exact h.secret.dash (List.mem_of_head? hhead.symm)
    · rw [hdash] at hhead
      exact absurd hhead (by decide)
  last := by
    obtain ⟨y₀, e, hlast, he⟩ := redactTokens_last words (end_eq body)
    refine ⟨y₀, e, hlast, ?_⟩
    rcases he with rfl | rfl <;> decide
  word := by
    intro hword
    rcases redactTokens_eq_or words (body ++ "-----END".toList) with hsame | hmark
    · rw [hword] at hsame
      have hlength := congrArg List.length hsame
      rw [List.length_append] at hlength
      have h₃ : "END".toList.length = 3 := by decide
      have hlong := h.long
      omega
    · rw [hword] at hmark
      exact absurd hmark (by decide)

end

end KeyText

/-- A table of the ASCII word characters alone. -/
def asciiWords : WordTable := ⟨fun c => c.isAlphanum || c == '_', fun _ _ => rfl⟩

end SensitiveDataRedactor

end Terracotta
