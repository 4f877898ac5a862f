import Mathlib.Data.List.Basic
import Mathlib.Data.Nat.Digits.Defs
/-!
# Socket addresses (`core::net::SocketAddr`)

Parsing and printing as the Rust standard library does them: an IPv4 address and port, or a bracketed IPv6 address with
an optional scope, and port.  A reader takes characters off the front of its input and answers with the rest.
-/
namespace Net

inductive IpAddr where
  | v4 (a b c d : Nat)
  | v6 (segments : List Nat)
deriving DecidableEq

/-- An address and port; `scopeId` is 0 for IPv4, and the flow label, which has no text, is always 0. -/
structure SocketAddr where
  ip : IpAddr
  port : Nat
  scopeId : Nat
deriving DecidableEq

/-! ## Parsing -/

def digitOf (radix : Nat) (c : Char) : Option Nat :=
  let n := if c.isDigit then some (c.toNat - 48)
    else if 'a' ≤ c ∧ c ≤ 'z' then some (c.toNat - 87)
    else if 'A' ≤ c ∧ c ≤ 'Z' then some (c.toNat - 55)
    else none
  n.filter (· < radix)

def readDigits (radix : Nat) : List Char → List Nat × List Char
  | [] => ([], [])
  | c :: cs => match digitOf radix c with
    | none => ([], c :: cs)
    | some d => let (ds, rest) := readDigits radix cs; (d :: ds, rest)

/-- `Parser::read_number`: at least one digit, at most `maxDigits` of them, a value of at most `max`. -/
def readNumber (radix : Nat) (maxDigits : Option Nat) (allowZeroPrefix : Bool) (max : Nat) (cs : List Char) :
    Option (Nat × List Char) :=
  let (ds, rest) := readDigits radix cs
  let value := Nat.ofDigits radix ds.reverse
  if ds = [] ∨ maxDigits.any (· < ds.length) ∨ (!allowZeroPrefix ∧ ds.head? = some 0 ∧ 1 < ds.length) ∨ max < value
  then none else some (value, rest)

def readChar (c : Char) : List Char → Option (List Char)
  | d :: cs => if c = d then some cs else none
  | [] => none

/-- `Parser::read_separator`: every item but the first is preceded by the separator. -/
def readSeparator {α : Type} (sep : Char) (index : Nat) (read : List Char → Option (α × List Char)) (cs : List Char) :
    Option (α × List Char) :=
  if index = 0 then read cs else (readChar sep cs).bind read

/-- An IPv4 address: four decimal octets without a zero prefix. -/
def readIpv4 (cs : List Char) : Option ((Nat × Nat × Nat × Nat) × List Char) := do
  let octet := readNumber 10 (some 3) false 255
  let (a, cs) ← octet cs
  let (b, cs) ← readSeparator '.' 1 octet cs
  let (c, cs) ← readSeparator '.' 2 octet cs
  let (d, cs) ← readSeparator '.' 3 octet cs
  return ((a, b, c, d), cs)

/-- `read_groups`: up to `limit` groups from index `i`, stopping at an embedded IPv4 address, which fills two. -/
def readGroups (limit : Nat) : Nat → Nat → List Char → List Nat × Bool × List Char
  | 0, _, cs => ([], false, cs)
  | fuel + 1, i, cs =>
    let embedded := if i + 1 < limit then readSeparator ':' i readIpv4 cs else none
    match embedded with
    | some ((a, b, c, d), rest) => ([a * 256 + b, c * 256 + d], true, rest)
    | none => match readSeparator ':' i (readNumber 16 (some 4) true 65535) cs with
      | none => ([], false, cs)
      | some (g, rest) =>
        let (gs, v4, rest) := readGroups limit fuel (i + 1) rest
        (g :: gs, v4, rest)

/-- An IPv6 address: eight groups, or a head and a tail of at most seven around `::`. -/
def readIpv6 (cs : List Char) : Option (List Nat × List Char) :=
  let (head, headV4, rest) := readGroups 8 8 0 cs
  if head.length = 8 then some (head, rest)
  else if headV4 then none
  else do
    let rest ← readChar ':' rest
    let rest ← readChar ':' rest
    let limit := 8 - (head.length + 1)
    let (tail, _, rest) := readGroups limit limit 0 rest
    return (head ++ List.replicate (8 - head.length - tail.length) 0 ++ tail, rest)

def readPort (cs : List Char) : Option (Nat × List Char) := (readChar ':' cs).bind (readNumber 10 none true 65535)

def readScopeId (cs : List Char) : Option (Nat × List Char) :=
  (readChar '%' cs).bind (readNumber 10 none true 4294967295)

def readSocketAddrV4 (cs : List Char) : Option (SocketAddr × List Char) := do
  let ((a, b, c, d), cs) ← readIpv4 cs
  let (port, cs) ← readPort cs
  return (⟨.v4 a b c d, port, 0⟩, cs)

def readSocketAddrV6 (cs : List Char) : Option (SocketAddr × List Char) := do
  let cs ← readChar '[' cs
  let (segments, cs) ← readIpv6 cs
  let (scopeId, cs) := (readScopeId cs).getD (0, cs)
  let cs ← readChar ']' cs
  let (port, cs) ← readPort cs
  return (⟨.v6 segments, port, scopeId⟩, cs)

/-- `str::parse::<SocketAddr>`: the whole text. -/
def SocketAddr.parse (s : String) : Option SocketAddr :=
  match (readSocketAddrV4 s.toList).or (readSocketAddrV6 s.toList) with
  | some (addr, []) => some addr
  | _ => none

/-! ## Printing -/

def showDec (n : Nat) : List Char := Nat.toDigits 10 n

def showHex (n : Nat) : List Char := Nat.toDigits 16 n

def showIpv4 (a b c d : Nat) : List Char :=
  showDec a ++ '.' :: showDec b ++ '.' :: showDec c ++ '.' :: showDec d

/-- The start and length of the first longest run of zero groups. -/
def longestZeros (segments : List Nat) : Nat × Nat :=
  let visit : Nat × (Nat × Nat) × (Nat × Nat) → Nat → Nat × (Nat × Nat) × (Nat × Nat) :=
    fun (i, current, longest) segment =>
      if segment = 0 then
        let current := if current.2 = 0 then (i, 1) else (current.1, current.2 + 1)
        (i + 1, current, if longest.2 < current.2 then current else longest)
      else (i + 1, (0, 0), longest)
  (segments.foldl visit (0, (0, 0), (0, 0))).2.2

def showGroups (segments : List Nat) : List Char := (segments.map showHex).intersperse [':'] |>.flatten

def showIpv6 (segments : List Nat) : List Char :=
  match segments with
  | [0, 0, 0, 0, 0, 65535, x, y] => "::ffff:".toList ++ showIpv4 (x / 256) (x % 256) (y / 256) (y % 256)
  | _ =>
    let (start, len) := longestZeros segments
    if 1 < len then showGroups (segments.take start) ++ [':', ':'] ++ showGroups (segments.drop (start + len))
    else showGroups segments

def SocketAddr.toString (addr : SocketAddr) : String :=
  match addr.ip with
  | .v4 a b c d => String.ofList (showIpv4 a b c d ++ ':' :: showDec addr.port)
  | .v6 segments =>
    let scope := if addr.scopeId = 0 then [] else '%' :: showDec addr.scopeId
    String.ofList ('[' :: showIpv6 segments ++ scope ++ [']', ':'] ++ showDec addr.port)

def IpAddr.isLoopback : IpAddr → Bool
  | .v4 a _ _ _ => a == 127
  | .v6 segments => segments == [0, 0, 0, 0, 0, 0, 0, 1]

/-! ## Reading back -/

theorem digitOf_digit {c : Char} (h : c.isDigit = true) : digitOf 10 c = some (c.toNat - 48) := by
  have hlt : c.toNat - 48 < 10 := by
    have hle : c.val.toNat ≤ 57 := by
      simp only [Char.isDigit, Bool.and_eq_true, decide_eq_true_eq, ge_iff_le, UInt32.le_iff_toNat_le] at h
      exact h.2
    show c.val.toNat - 48 < 10
    omega
  unfold digitOf
  simp only [h, if_true]
  rw [Option.filter_some, decide_eq_true hlt]
  rfl

theorem ofDigits_showDec (n : Nat) : Nat.ofDigits 10 ((showDec n).map (fun c => c.toNat - 48)).reverse = n := by
  have hfold : ∀ (cs : List Char) (acc : Nat),
      cs.foldl (fun y c => (c.toNat - 48) + 10 * y) acc = Nat.ofDigitChars 10 cs acc := by
    intro cs
    induction cs with
    | nil => exact fun _ => rfl
    | cons c cs ih =>
      intro acc
      rw [List.foldl_cons, ih, Nat.ofDigitChars_cons, Nat.add_comm]
      rfl
  rw [Nat.ofDigits_eq_foldr, List.foldr_reverse, List.foldl_map]
  exact (hfold _ _).trans Nat.ofDigitChars_ten_toDigits

/-- A reader of decimals stops here. -/
def NoDigit (rest : List Char) : Prop := ∀ c ∈ rest.head?, digitOf 10 c = none

theorem readDigits_append : ∀ {cs rest : List Char}, (∀ c ∈ cs, c.isDigit = true) → NoDigit rest →
    readDigits 10 (cs ++ rest) = (cs.map (fun c => c.toNat - 48), rest)
  | [], [], _, _ => rfl
  | [], c :: rest, _, hrest => by
    rw [List.nil_append, readDigits, hrest c rfl]
    rfl
  | c :: cs, rest, h, hrest => by
    have ih := readDigits_append (fun c hc => h c (List.mem_cons_of_mem _ hc)) hrest
    rw [List.cons_append, readDigits, digitOf_digit (h c List.mem_cons_self)]
    simp only
    rw [ih]
    rfl

theorem showDec_digits (n : Nat) : ∀ c ∈ showDec n, c.isDigit = true :=
  fun _ hc => Nat.isDigit_of_mem_toDigits (by decide) (by decide) hc

/-- **A decimal reads back from its text**, where its digits are not too many and do not start with a zero too much. -/
theorem readNumber_showDec {maxDigits : Option Nat} {allowZeroPrefix : Bool} {max n : Nat} {rest : List Char}
    (hmax : n ≤ max) (hlength : ∀ k ∈ maxDigits, (showDec n).length ≤ k)
    (hzero : allowZeroPrefix = true ∨ ((showDec n).map (fun c => c.toNat - 48)).head? ≠ some 0 ∨ (showDec n).length ≤ 1)
    (hrest : NoDigit rest) : readNumber 10 maxDigits allowZeroPrefix max (showDec n ++ rest) = some (n, rest) := by
  have hne : (showDec n).map (fun c => c.toNat - 48) ≠ [] := fun hnil =>
    absurd (List.map_eq_nil_iff.1 hnil) Nat.toDigits_ne_nil
  unfold readNumber
  simp only [readDigits_append (showDec_digits n) hrest, ofDigits_showDec]
  rw [if_neg]
  rintro (hnil | hmany | ⟨hallow, hhead, hlong⟩ | hbig)
  · exact hne hnil
  · cases hk : maxDigits with
    | none => rw [hk] at hmany; cases hmany
    | some k =>
      have hle := hlength k hk
      rw [hk] at hmany
      simp only [Option.any_some, List.length_map, decide_eq_true_eq] at hmany
      omega
  · rw [List.length_map] at hlong
    rcases hzero with hzero | hzero | hzero
    · rw [hzero] at hallow
      cases hallow
    · exact hzero hhead
    · omega
  · omega

theorem octet_digits : ∀ n < 256, (showDec n).length ≤ 3 ∧
    (((showDec n).map (fun c => c.toNat - 48)).head? ≠ some 0 ∨ (showDec n).length ≤ 1) := by
  decide +kernel

theorem readOctet_showDec {n : Nat} {rest : List Char} (h : n ≤ 255) (hrest : NoDigit rest) :
    readNumber 10 (some 3) false 255 (showDec n ++ rest) = some (n, rest) := by
  obtain ⟨hlength, hzero⟩ := octet_digits n (by omega)
  exact readNumber_showDec h (fun k hk => (Option.some.inj hk) ▸ hlength) (Or.inr hzero) hrest

theorem noDigit_dot (cs : List Char) : NoDigit ('.' :: cs) := fun c hc => by
  obtain rfl : '.' = c := Option.some.inj hc
  decide

theorem noDigit_nil : NoDigit [] := fun c hc => by cases hc

theorem readIpv4_showIpv4 {a b c d : Nat} {rest : List Char} (ha : a ≤ 255) (hb : b ≤ 255) (hc : c ≤ 255) (hd : d ≤ 255)
    (hrest : NoDigit rest) : readIpv4 (showIpv4 a b c d ++ rest) = some ((a, b, c, d), rest) := by
  have hsep : ∀ (i n : Nat) (rest : List Char), i ≠ 0 → n ≤ 255 → NoDigit rest →
      readSeparator '.' i (readNumber 10 (some 3) false 255) ('.' :: (showDec n ++ rest)) = some (n, rest) := by
    intro i n rest hi hn hrest
    unfold readSeparator
    rw [if_neg hi]
    exact readOctet_showDec hn hrest
  unfold readIpv4 showIpv4
  simp only [List.append_assoc, List.cons_append, Option.bind_eq_bind]
  rw [readOctet_showDec ha (noDigit_dot _), Option.bind_some]
  simp only
  rw [hsep 1 b _ (by decide) hb (noDigit_dot _), Option.bind_some]
  simp only
  rw [hsep 2 c _ (by decide) hc (noDigit_dot _), Option.bind_some]
  simp only
  rw [hsep 3 d _ (by decide) hd hrest, Option.bind_some]
  rfl

theorem readPort_showDec {port : Nat} (h : port ≤ 65535) : readPort (':' :: showDec port) = some (port, []) := by
  have hnumber : readNumber 10 none true 65535 (showDec port ++ []) = some (port, []) :=
    readNumber_showDec h (fun k hk => by cases hk) (Or.inl rfl) noDigit_nil
  rw [List.append_nil] at hnumber
  exact hnumber

theorem readScopeId_showDec {scope : Nat} {rest : List Char} (h : scope ≤ 4294967295) (hrest : NoDigit rest) :
    readScopeId ('%' :: (showDec scope ++ rest)) = some (scope, rest) :=
  readNumber_showDec h (fun k hk => by cases hk) (Or.inl rfl) hrest

/-- **What a parsed address is bounded by.** -/
def SocketAddr.Bounded (addr : SocketAddr) : Prop :=
  addr.port ≤ 65535 ∧ addr.scopeId ≤ 4294967295 ∧
    ∀ a b c d, addr.ip = .v4 a b c d → a ≤ 255 ∧ b ≤ 255 ∧ c ≤ 255 ∧ d ≤ 255 ∧ addr.scopeId = 0

theorem readNumber_le {radix max n : Nat} {maxDigits : Option Nat} {allowZeroPrefix : Bool} {cs rest : List Char}
    (h : readNumber radix maxDigits allowZeroPrefix max cs = some (n, rest)) : n ≤ max := by
  unfold readNumber at h
  simp only at h
  split at h
  · cases h
  · rename_i hno
    simp only [not_or] at hno
    cases h
    omega

theorem readSeparator_le {sep : Char} {i n : Nat} {cs rest : List Char}
    (h : readSeparator sep i (readNumber 10 (some 3) false 255) cs = some (n, rest)) : n ≤ 255 := by
  unfold readSeparator at h
  split at h
  · exact readNumber_le h
  · obtain ⟨_, _, h⟩ := Option.bind_eq_some_iff.1 h
    exact readNumber_le h

theorem readSocketAddrV4_bounded {cs rest : List Char} {addr : SocketAddr}
    (h : readSocketAddrV4 cs = some (addr, rest)) : addr.Bounded := by
  unfold readSocketAddrV4 readIpv4 readPort at h
  simp only [Option.bind_eq_bind, Option.bind_eq_some_iff, Prod.exists, pure, Option.some.injEq, Prod.mk.injEq] at h
  obtain ⟨a, b, c, d, _, ⟨a', _, ha, b', _, hb, c', _, hc, d', _, hd, ⟨rfl, rfl, rfl, rfl⟩, -⟩, port, _, ⟨_, -, hport⟩,
    rfl, -⟩ := h
  refine ⟨readNumber_le hport, Nat.zero_le _, fun a b c d hip => ?_⟩
  cases hip
  exact ⟨readNumber_le ha, readSeparator_le hb, readSeparator_le hc, readSeparator_le hd, rfl⟩

theorem readSocketAddrV6_bounded {cs rest : List Char} {addr : SocketAddr}
    (h : readSocketAddrV6 cs = some (addr, rest)) : addr.Bounded := by
  unfold readSocketAddrV6 readPort at h
  simp only [Option.bind_eq_bind, Option.bind_eq_some_iff, Prod.exists, pure, Option.some.injEq, Prod.mk.injEq] at h
  obtain ⟨_, -, segments, after, -, _, -, port, _, ⟨_, -, hport⟩, rfl, -⟩ := h
  refine ⟨readNumber_le hport, ?_, fun a b c d hip => by cases hip⟩
  simp only
  cases hscope : readScopeId after with
  | none => exact Nat.zero_le _
  | some found =>
    obtain ⟨scope, rest'⟩ := found
    unfold readScopeId at hscope
    obtain ⟨_, _, hn⟩ := Option.bind_eq_some_iff.1 hscope
    exact readNumber_le hn

theorem parse_bounded {s : String} {addr : SocketAddr} (h : SocketAddr.parse s = some addr) : addr.Bounded := by
  unfold SocketAddr.parse at h
  split at h
  · rename_i addr' hread
    cases h
    rcases Option.or_eq_some_iff.1 hread with h4 | ⟨-, h6⟩
    · exact readSocketAddrV4_bounded h4
    · exact readSocketAddrV6_bounded h6
  · cases h

theorem parse_v4 {a b c d port : Nat} (ha : a ≤ 255) (hb : b ≤ 255) (hc : c ≤ 255) (hd : d ≤ 255) (hport : port ≤ 65535) :
    SocketAddr.parse (SocketAddr.toString ⟨.v4 a b c d, port, 0⟩) = some ⟨.v4 a b c d, port, 0⟩ := by
  have hcolon : NoDigit (':' :: showDec port) := fun c hc => by
    obtain rfl : ':' = c := Option.some.inj hc
    decide
  have hread : readSocketAddrV4 (showIpv4 a b c d ++ ':' :: showDec port) = some (⟨.v4 a b c d, port, 0⟩, []) := by
    unfold readSocketAddrV4
    rw [readIpv4_showIpv4 ha hb hc hd hcolon]
    simp only [Option.bind_eq_bind, Option.bind_some]
    rw [readPort_showDec hport]
    rfl
  unfold SocketAddr.parse
  have htext : (SocketAddr.toString ⟨.v4 a b c d, port, 0⟩).toList = showIpv4 a b c d ++ ':' :: showDec port :=
    String.toList_ofList
  rw [htext, hread]
  rfl

/-- **An endpoint on 127.0.0.1 reads back from its text.** -/
theorem parse_loopback {port : Nat} (h : port < 65536) :
    SocketAddr.parse (SocketAddr.toString ⟨.v4 127 0 0 1, port, 0⟩) = some ⟨.v4 127 0 0 1, port, 0⟩ :=
  parse_v4 (by decide) (by decide) (by decide) (by decide) (by omega)

theorem readIpv6_one {c : Char} {cs : List Char} (h : c = '%' ∨ c = ']') :
    readIpv6 (':' :: ':' :: '1' :: c :: cs) = some ([0, 0, 0, 0, 0, 0, 0, 1], c :: cs) := by
  rcases h with rfl | rfl <;> rfl

theorem parse_v6_one {port scope : Nat} (hport : port ≤ 65535) (hscope : scope ≤ 4294967295) :
    SocketAddr.parse (SocketAddr.toString ⟨.v6 [0, 0, 0, 0, 0, 0, 0, 1], port, scope⟩) =
      some ⟨.v6 [0, 0, 0, 0, 0, 0, 0, 1], port, scope⟩ := by
  have hip : showIpv6 [0, 0, 0, 0, 0, 0, 0, 1] = [':', ':', '1'] := by decide +kernel
  have hbracket : NoDigit (']' :: ':' :: showDec port) := fun c hc => by
    obtain rfl : ']' = c := Option.some.inj hc
    decide
  have htext : (SocketAddr.toString ⟨.v6 [0, 0, 0, 0, 0, 0, 0, 1], port, scope⟩).toList =
      '[' :: ':' :: ':' :: '1' :: ((if scope = 0 then [] else '%' :: showDec scope) ++ ']' :: ':' :: showDec port) := by
    show (String.ofList ('[' :: showIpv6 [0, 0, 0, 0, 0, 0, 0, 1] ++
      (if scope = 0 then [] else '%' :: showDec scope) ++ [']', ':'] ++ showDec port)).toList = _
    rw [String.toList_ofList, hip]
    simp
  have hread : readSocketAddrV6
      ('[' :: ':' :: ':' :: '1' :: ((if scope = 0 then [] else '%' :: showDec scope) ++ ']' :: ':' :: showDec port)) =
      some (⟨.v6 [0, 0, 0, 0, 0, 0, 0, 1], port, scope⟩, []) := by
    have hchar : ∀ cs, readChar '[' ('[' :: cs) = some cs := fun _ => rfl
    have hclose : readChar ']' (']' :: ':' :: showDec port) = some (':' :: showDec port) := rfl
    unfold readSocketAddrV6
    rw [hchar]
    simp only [Option.bind_eq_bind, Option.bind_some]
    by_cases h0 : scope = 0
    · rw [if_pos h0, List.nil_append, readIpv6_one (Or.inr rfl), h0]
      have hnone : readScopeId (']' :: ':' :: showDec port) = none := rfl
      simp only [Option.bind_some, hnone, Option.getD_none, hclose, readPort_showDec hport]
      rfl
    · rw [if_neg h0, List.cons_append, readIpv6_one (Or.inl rfl)]
      simp only [Option.bind_some, readScopeId_showDec hscope hbracket, Option.getD_some, hclose, readPort_showDec hport]
      rfl
  have hv4 : ∀ cs, readSocketAddrV4 ('[' :: cs) = none := fun _ => rfl
  unfold SocketAddr.parse
  rw [htext, hv4, hread]
  rfl

/-- **A loopback endpoint that was parsed reads back from its text.** -/
theorem parse_toString_of_loopback {s : String} {addr : SocketAddr} (h : SocketAddr.parse s = some addr)
    (hloopback : addr.ip.isLoopback = true) : SocketAddr.parse addr.toString = some addr := by
  obtain ⟨hport, hscope, hv4⟩ := parse_bounded h
  obtain ⟨ip, port, scope⟩ := addr
  cases ip with
  | v4 a b c d =>
    obtain ⟨ha, hb, hc, hd, h0⟩ := hv4 a b c d rfl
    simp only at h0
    subst h0
    exact parse_v4 ha hb hc hd hport
  | v6 segments =>
    obtain rfl : segments = [0, 0, 0, 0, 0, 0, 0, 1] := by simpa [IpAddr.isLoopback] using hloopback
    exact parse_v6_one hport hscope

end Net
