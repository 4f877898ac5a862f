import Mathlib
/-!
# Text, as the standard libraries read it

Unicode white space and control characters, trimming and UTF-8 lengths, on lists of characters.
-/
namespace Text

/-- `char::is_whitespace`, `char.IsWhiteSpace`: the Unicode property `White_Space`. -/
def isWhitespace (c : Char) : Bool :=
  let n := c.toNat
  (decide (9 ≤ n) && decide (n ≤ 13)) || n == 0x20 || n == 0x85 || n == 0xA0 || n == 0x1680 ||
    (decide (0x2000 ≤ n) && decide (n ≤ 0x200A)) || n == 0x2028 || n == 0x2029 || n == 0x202F || n == 0x205F ||
    n == 0x3000

/-- `char::is_control`: the Unicode category `Cc`. -/
def isControl (c : Char) : Bool := decide (c.toNat < 0x20) || (decide (0x7F ≤ c.toNat) && decide (c.toNat < 0xA0))

def trim (s : List Char) : List Char := (s.dropWhile isWhitespace).rdropWhile isWhitespace

def utf8Len (s : List Char) : Nat := (s.map Char.utf8Size).sum

/-- **A nonempty prefix of a list that starts with no white space starts with none.** -/
theorem dropWhile_eq_self_of_prefix {p s : List Char} (hp : p <+: s) (hs : s.dropWhile isWhitespace = s) :
    p.dropWhile isWhitespace = p := by
  cases p with
  | nil => rfl
  | cons c p' =>
    obtain ⟨t, rfl⟩ := hp
    rw [List.cons_append, List.dropWhile_cons] at hs
    rw [List.dropWhile_cons]
    split at hs
    · have hlen := congrArg List.length hs
      have hle := (List.dropWhile_suffix isWhitespace (l := p' ++ t)).length_le
      simp only [List.length_cons] at hlen
      omega
    · rename_i hc
      rw [if_neg hc]

theorem trim_trim (s : List Char) : trim (trim s) = trim s := by
  have hstart : (trim s).dropWhile isWhitespace = trim s :=
    dropWhile_eq_self_of_prefix (List.rdropWhile_prefix _ _) (List.dropWhile_idempotent _ _)
  rw [trim, hstart]
  exact List.rdropWhile_idempotent _ _

end Text
