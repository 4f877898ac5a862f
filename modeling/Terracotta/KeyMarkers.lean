import Terracotta.Tokens
/-!
# Markers of a key block

Where no token goes on into the lines of a block, and no earlier block takes some of the dashes of its opening line, the body
of the block goes.  Where one does, and nothing else around the block makes up for it, the body stays.
-/
namespace Terracotta

open Regex (foldCase wordLast Masked)

namespace SensitiveDataRedactor

/-! ## The lines of a block -/

theorem Token.Ends.behind {words : WordTable} {k : Token} {p q : List Char} (h : k.Ends words q)
    (hp : wordLast words.isWord false p = false) : k.Ends words (p ++ q) := by
  obtain ⟨front, lead, rest, rfl, hbound, hlead, hrest⟩ := h
  refine ⟨p ++ front, lead, rest, (List.append_assoc p front _).symm, fun hk => ?_, hlead, hrest⟩
  rw [Regex.wordLast_append, hp]
  exact hbound hk

/-- A token behind a key line is one of the text. -/
theorem Reaches.behind {words : WordTable} {p q : List Char} {c : Char} (h : Reaches words q c) :
    Reaches words (p ++ ("PRIVATE KEY-----".toList ++ q)) c := by
  obtain ⟨k, hends, hk⟩ := h
  have hdash : wordLast words.isWord false (p ++ "PRIVATE KEY-----".toList) = false := by
    rw [show "PRIVATE KEY-----".toList = "PRIVATE KEY----".toList ++ ['-'] by decide, ← List.append_assoc,
      Regex.wordLast_append]
    exact (not_word_blank words).2
  rw [← List.append_assoc]
  exact ⟨k, hends.behind hdash, hk⟩

namespace Spared

variable {words : WordTable} {text pre label body post : List Char}

end Spared

/-! ## A block whose lines are cut -/

/-- Around a body no other lines of a block, and in a text of the block at most one token. -/
structure Alone (words : WordTable) (pre label body post : List Char) : Prop where
  preSole : Sole words pre
  labelSole : Sole words label
  bodySole : Sole words body
  bodyFree : TokenFree words body
  opening : ¬ "-----BEGIN".toList <:+: pre
  closing : ¬ "-----END ".toList <:+: "-----".toList ++ post

section

variable {A B C : List Char}

end

namespace Alone

variable {words : WordTable} {text pre label body post : List Char}

end Alone

end SensitiveDataRedactor

end Terracotta
