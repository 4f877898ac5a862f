import Terracotta.Regex
import Terracotta.Sessions
import Terracotta.Credentials
/-!
# The port of a LAN world (`LanAddressResolver`)

`TryResolvePort` takes a text for a bare number, then for an endpoint, and last for a line of the game's output that names
the port behind one of three markers.
-/
namespace Text

/-- Trimming stops at the ends of what starts and ends with no white space. -/
theorem trim_append {a x b : List Char} (hne : x ≠ []) (hhead : ∀ c ∈ x.head?, isWhitespace c = false)
    (hlast : ∀ c ∈ x.getLast?, isWhitespace c = false) :
    trim (a ++ x ++ b) = a.dropWhile isWhitespace ++ x ++ b.rdropWhile isWhitespace := by
  have hleft : (a ++ x ++ b).dropWhile isWhitespace = a.dropWhile isWhitespace ++ x ++ b := by
    obtain ⟨c, x, rfl⟩ := List.exists_cons_of_ne_nil hne
    have hc : isWhitespace c = false := hhead c rfl
    rw [List.append_assoc, List.dropWhile_append, List.append_assoc]
    split
    · rename_i hnil
      rw [List.isEmpty_iff.1 hnil, List.nil_append, List.cons_append]
      exact List.dropWhile_cons_of_neg (by simp [hc])
    · rfl
  have hright : ∀ y : List Char, (y ++ x ++ b).rdropWhile isWhitespace = y ++ x ++ b.rdropWhile isWhitespace := by
    intro y
    have hc := hlast _ (List.getLast?_eq_some_getLast hne)
    unfold List.rdropWhile
    rw [List.reverse_append, List.dropWhile_append]
    split
    · rename_i hnil
      rw [List.isEmpty_iff.1 hnil, List.reverse_nil, List.append_nil, List.reverse_append,
        ← List.dropLast_concat_getLast hne, List.reverse_concat, List.cons_append,
        List.dropWhile_cons_of_neg (by simp [hc])]
      simp
    · simp
  unfold trim
  rw [hleft, hright]

end Text

namespace Terracotta

open Regex (foldCase word)

/-- `System.Uri`, as far as it is read. -/
structure Uri where
  host : String
  port : Int

/-- What .NET's addresses come to. -/
structure Addressing where
  tryCreate : String → Option Uri -- `Uri.TryCreate`, absolute
  isLoopback : String → Bool -- `IPAddress.TryParse` with `IPAddress.IsLoopback`

namespace LanAddressResolver

def isValidPort (port : Int) : Bool := decide (0 < port) && decide (port ≤ 65535)

/-- `int.TryParse` with `NumberStyles.None`: digits, and NULs behind them. -/
def tryParseInt (s : List Char) : Option Int :=
  let digits := s.takeWhile Char.isDigit
  if digits ≠ [] ∧ (s.dropWhile Char.isDigit).all (· == '\x00') ∧ Nat.ofDigitChars 10 digits 0 ≤ 2147483647 then
    some ↑(Nat.ofDigitChars 10 digits 0)
  else none

def isLoopbackHost (net : Addressing) (host : String) : Bool :=
  host.toList.map Char.toLower == "localhost".toList || net.isLoopback host

/-- A text that is read as an endpoint. -/
def endpointPort (net : Addressing) (value : List Char) : Option Int :=
  match net.tryCreate ("tcp://" ++ String.ofList value) with
  | none => none
  | some endpoint =>
    if isValidPort endpoint.port && isLoopbackHost net endpoint.host then some endpoint.port else none

def markers : List (List Char) :=
  ["Local game hosted on port".toList, "Started serving on".toList, "本地游戏已在端口".toList]

/-- The group is of at most five digits. -/
def lanOutputPattern : Regex.Pattern where
  lead := .seq
    (.alt (word foldCase "Local game hosted on port".toList)
      (.alt (word foldCase "Started serving on".toList) (word foldCase "本地游戏已在端口".toList)))
    (.rep Text.isWhitespace 0 none false)
  tail := .rep Char.isDigit 1 (some 5) false

def outputPort (value : List Char) : Option Int :=
  match lanOutputPattern.search (fun _ => false) false value with
  | none => none
  | some (_, found) =>
    match tryParseInt found.tail with
    | none => none
    | some parsed => if isValidPort parsed then some parsed else none

def tryResolvePort (net : Addressing) : Option String → Option Int
  | none => none
  | some lanAddress =>
    if isNullOrWhiteSpace (some lanAddress) then none
    else
      let value := Text.trim lanAddress.toList
      match tryParseInt value with
      | some directPort => if isValidPort directPort then some directPort else none
      | none =>
        match endpointPort net value with
        | some port => some port
        | none => outputPort value

/-! ## What is resolved is a port -/

theorem isValidPort_iff {port : Int} : isValidPort port = true ↔ 0 < port ∧ port ≤ 65535 := by
  unfold isValidPort
  rw [Bool.and_eq_true, decide_eq_true_eq, decide_eq_true_eq]

theorem endpointPort_valid {net : Addressing} {value : List Char} {port : Int}
    (h : endpointPort net value = some port) : isValidPort port = true := by
  unfold endpointPort at h
  split at h
  · cases h
  · split at h
    · rename_i hvalid
      cases h
      exact (Bool.and_eq_true_iff.1 hvalid).1
    · cases h

theorem outputPort_valid {value : List Char} {port : Int} (h : outputPort value = some port) :
    isValidPort port = true := by
  unfold outputPort at h
  split at h
  · cases h
  · split at h
    · cases h
    · split at h
      · rename_i hvalid
        cases h
        exact hvalid
      · cases h

theorem tryResolvePort_valid {net : Addressing} {text : Option String} {port : Int}
    (h : tryResolvePort net text = some port) : isValidPort port = true := by
  cases text with
  | none => cases h
  | some text =>
    simp only [tryResolvePort] at h
    split at h
    · cases h
    · split at h
      · split at h
        · rename_i hvalid
          cases h
          exact hvalid
        · cases h
      · split at h
        · rename_i hendpoint
          cases h
          exact endpointPort_valid hendpoint
        · exact outputPort_valid h

theorem toLoopbackAddress_valid {port : Int} (h : isValidPort port = true) :
    ∃ address endpoint, toLoopbackAddress port = .ok address ∧ validateLoopbackAddress address = .ok endpoint := by
  obtain ⟨hpos, hle⟩ := isValidPort_iff.1 h
  obtain ⟨n, rfl⟩ := Int.eq_ofNat_of_zero_le (Int.le_of_lt hpos)
  have htext : "127.0.0.1:" ++ toString (n : Int) = (loopback n).toString := by
    have hport : toString (n : Int) = String.ofList (Net.showDec n) := Nat.repr_eq_ofList_toDigits
    have hhost : "127.0.0.1:" = String.ofList (Net.showIpv4 127 0 0 1 ++ [':']) := by decide
    rw [hport, hhost, ← String.ofList_append, List.append_assoc]
    rfl
  refine ⟨_, loopback n, if_pos ⟨hpos, hle⟩, ?_⟩
  rw [htext]
  exact validateLoopbackAddress_loopback ⟨by omega, by omega⟩

/-! ## Lines with one marker -/

def IsMarker (m : List Char) : Prop := ∃ k ∈ markers, m.map foldCase = k.map foldCase

/-- A line with one marker, which white space and a whole run of digits follow. -/
structure MarkerLine (line a m w d b : List Char) : Prop where
  line_eq : line = a ++ m ++ w ++ d ++ b
  marker : IsMarker m
  once : ∀ a' m' b', line = a' ++ m' ++ b' → IsMarker m' → a' = a
  space : ∀ c ∈ w, Text.isWhitespace c = true
  digits : ∀ c ∈ d, c.isDigit = true
  digits_ne : d ≠ []
  maximal : ∀ c ∈ b.head?, c.isDigit = false

/-- The port that a run of digits stands for. -/
def denoted (d : List Char) : Option Int :=
  if isValidPort (Nat.ofDigitChars 10 d 0) then some ↑(Nat.ofDigitChars 10 d 0) else none

theorem foldCase_of_not_upper {c : Char} (h : c.isUpper = false) (hk : c ≠ '\u212A') : foldCase c = c := by
  unfold foldCase Char.toLower
  rw [if_neg hk]
  simp only [Char.isUpper, decide_eq_false_iff_not] at h
  split
  · rename_i hupper
    exact absurd hupper (by tauto)
  · rfl

theorem digit_toNat {c : Char} (h : c.isDigit = true) : 48 ≤ c.toNat ∧ c.toNat ≤ 57 := by
  simpa [Char.isDigit, UInt32.le_iff_toNat_le] using h

theorem foldCase_digit {c : Char} (h : c.isDigit = true) : foldCase c = c := by
  have hn := digit_toNat h
  refine foldCase_of_not_upper ?_ fun hk => ?_
  · simp only [Char.isUpper, decide_eq_false_iff_not, ge_iff_le, UInt32.le_iff_toNat_le]
    exact fun hupper => absurd (hupper.1.trans hn.2) (by decide)
  · rw [hk] at hn
    exact absurd hn (by decide)

theorem foldCase_space {c : Char} (h : Text.isWhitespace c = true) : foldCase c = c := by
  refine foldCase_of_not_upper ?_ fun hk => by rw [hk] at h; exact absurd h (by decide)
  cases hupper : c.isUpper with
  | false => rfl
  | true =>
    have hn : 65 ≤ c.toNat ∧ c.toNat ≤ 90 := by
      simpa [Char.isUpper, UInt32.le_iff_toNat_le] using hupper
    simp only [Text.isWhitespace, Bool.or_eq_true, Bool.and_eq_true, decide_eq_true_eq, beq_iff_eq] at h
    omega

/-- No character of a marker is one that a number may be made of. -/
theorem IsMarker.not_number {m : List Char} (h : IsMarker m) {c : Char} (hc : c ∈ m) :
    c.isDigit = false ∧ c ≠ '\x00' := by
  obtain ⟨k, hk, hfold⟩ := h
  have hmem : foldCase c ∈ k.map foldCase := hfold ▸ List.mem_map_of_mem hc
  have hplain : (markers.all fun k => (k.map foldCase).all fun x => !x.isDigit && x != '\x00') = true := by decide
  obtain ⟨hdigit, hnul⟩ := Bool.and_eq_true_iff.1 (List.all_eq_true.1 (List.all_eq_true.1 hplain k hk) _ hmem)
  rw [Bool.not_eq_true'] at hdigit
  refine ⟨?_, fun h => bne_iff_ne.1 hnul (by rw [h]; rfl)⟩
  cases hc : c.isDigit with
  | false => rfl
  | true => rwa [foldCase_digit hc, hc] at hdigit

theorem IsMarker.ne_nil {m : List Char} (h : IsMarker m) : m ≠ [] := by
  rintro rfl
  obtain ⟨k, hk, hfold⟩ := h
  have hne : ∀ k ∈ markers, k ≠ [] := by decide
  exact hne k hk (List.map_eq_nil_iff.1 hfold.symm)

theorem IsMarker.head_not_space {m : List Char} (h : IsMarker m) : ∀ c ∈ m.head?, Text.isWhitespace c = false := by
  obtain ⟨k, hk, hfold⟩ := h
  intro c hc
  have hplain : (markers.all fun k => (k.map foldCase).head?.all fun x => !Text.isWhitespace x) = true := by decide
  have hhead : foldCase c ∈ (k.map foldCase).head? := by
    rw [← hfold, List.head?_map]
    exact Option.mem_map_of_mem foldCase hc
  have hnot := List.all_eq_true.1 hplain k hk
  rw [Option.mem_def.1 hhead, Option.all_some, Bool.not_eq_true'] at hnot
  cases hspace : Text.isWhitespace c with
  | false => rfl
  | true => rwa [foldCase_space hspace, hspace] at hnot

/-- Markers that start at one place are one. -/
theorem IsMarker.eq_of_append {m m' x y : List Char} (h : IsMarker m) (h' : IsMarker m') (heq : m ++ x = m' ++ y) :
    m = m' := by
  have hne := h.ne_nil
  have hne' := h'.ne_nil
  obtain ⟨k, hk, hfold⟩ := h
  obtain ⟨k', hk', hfold'⟩ := h'
  have hdistinct : ∀ k ∈ markers, ∀ k' ∈ markers, (k.map foldCase).head? = (k'.map foldCase).head? →
      k.length = k'.length := by decide
  have hhead : m.head? = m'.head? := by
    have hboth := congrArg List.head? heq
    rwa [List.head?_append_of_ne_nil m hne, List.head?_append_of_ne_nil m' hne'] at hboth
  have hlength : m.length = m'.length := by
    have hsame := hdistinct k hk k' hk' (by rw [← hfold, ← hfold', List.head?_map, List.head?_map, hhead])
    have hm := congrArg List.length hfold
    have hm' := congrArg List.length hfold'
    rw [List.length_map, List.length_map] at hm hm'
    exact hm.trans (hsame.trans hm'.symm)
  exact (List.append_inj heq hlength).1

theorem tryParseInt_some {s : List Char} {n : Int} (h : tryParseInt s = some n) :
    ∀ c ∈ s, c.isDigit = true ∨ c = '\x00' := by
  unfold tryParseInt at h
  dsimp only at h
  split at h
  · rename_i hparse
    intro c hc
    rw [← List.takeWhile_append_dropWhile (p := Char.isDigit) (l := s)] at hc
    rcases List.mem_append.1 hc with hc | hc
    · exact .inl (List.mem_takeWhile_imp hc)
    · exact .inr (by simpa using List.all_eq_true.1 hparse.2.1 c hc)
  · cases h

theorem tryParseInt_digits {d : List Char} (hd : d ≠ []) (h : ∀ c ∈ d, c.isDigit = true)
    (hvalue : Nat.ofDigitChars 10 d 0 ≤ 2147483647) : tryParseInt d = some ↑(Nat.ofDigitChars 10 d 0) := by
  have htake : d.takeWhile Char.isDigit = d := List.takeWhile_eq_self_iff.2 h
  have hdrop : d.dropWhile Char.isDigit = [] := List.dropWhile_eq_nil_iff.2 h
  unfold tryParseInt
  dsimp only
  rw [htake, hdrop, if_pos ⟨hd, rfl, hvalue⟩]

/-! ## Where a line matches -/

theorem marker_of_mem_lead {before : Bool} {s : List Char} {e : List Char × List Char}
    (h : e ∈ lanOutputPattern.lead.ends (fun _ => false) before s) :
    ∃ m w, IsMarker m ∧ (∀ c ∈ w, Text.isWhitespace c = true) ∧ e.1 = m ++ w ∧ s = m ++ (w ++ e.2) := by
  obtain ⟨x, hx, y, hy, rfl⟩ := (Regex.mem_ends_seq _).1 h
  have hmarker : IsMarker x.1 := by
    rcases List.mem_append.1 hx with hx | hx
    · exact ⟨_, List.mem_cons_self, Regex.mem_ends_word _ hx⟩
    · rcases List.mem_append.1 hx with hx | hx
      · exact ⟨_, List.mem_cons_of_mem _ List.mem_cons_self, Regex.mem_ends_word _ hx⟩
      · exact ⟨_, List.mem_cons_of_mem _ (List.mem_cons_of_mem _ List.mem_cons_self), Regex.mem_ends_word _ hx⟩
  obtain ⟨happend, -, -, hspace⟩ := Regex.mem_splits ((Regex.mem_ends_rep _).1 hy)
  exact ⟨x.1, y.1, hmarker, hspace, rfl, by rw [happend]; exact (Regex.ends_append _ hx).symm⟩

theorem mem_lead_of_marker {before : Bool} {m w y : List Char} (hm : IsMarker m)
    (hw : ∀ c ∈ w, Text.isWhitespace c = true) :
    (m ++ w, y) ∈ lanOutputPattern.lead.ends (fun _ => false) before (m ++ (w ++ y)) := by
  refine (Regex.mem_ends_seq _).2 ⟨(m, w ++ y), ?_, (w, y), (Regex.mem_ends_rep _).2 (Regex.mem_splits_of_all hw), rfl⟩
  obtain ⟨k, hk, hfold⟩ := hm
  rcases List.mem_cons.1 hk with rfl | hk
  · exact List.mem_append_left _ (Regex.mem_ends_word_of_map _ before _ hfold)
  · rcases List.mem_cons.1 hk with rfl | hk
    · exact List.mem_append_right _ (List.mem_append_left _ (Regex.mem_ends_word_of_map _ before _ hfold))
    · cases List.mem_singleton.1 hk
      exact List.mem_append_right _ (List.mem_append_right _ (Regex.mem_ends_word_of_map _ before _ hfold))

theorem not_space_of_digit {c : Char} (h : c.isDigit = true) : Text.isWhitespace c = false := by
  have hn := digit_toNat h
  cases hspace : Text.isWhitespace c with
  | false => rfl
  | true =>
    simp only [Text.isWhitespace, Bool.or_eq_true, Bool.and_eq_true, decide_eq_true_eq, beq_iff_eq] at hspace
    omega

theorem takeWhile_space {w y : List Char} (hw : ∀ c ∈ w, Text.isWhitespace c = true)
    (hy : ∀ c ∈ y.head?, c.isDigit = true) : (w ++ y).takeWhile Text.isWhitespace = w := by
  rw [List.takeWhile_append_of_pos hw]
  cases y with
  | nil => rw [List.takeWhile_nil, List.append_nil]
  | cons c y =>
    rw [List.takeWhile_cons_of_neg (by rw [not_space_of_digit (hy c rfl)]; exact Bool.false_ne_true), List.append_nil]

theorem matchAt_of_marker (before : Bool) {m w d b : List Char} (hm : IsMarker m)
    (hw : ∀ c ∈ w, Text.isWhitespace c = true) (hne : d ≠ []) (hd : ∀ c ∈ d, c.isDigit = true)
    (hb : ∀ c ∈ b.head?, c.isDigit = false) :
    lanOutputPattern.matchAt (fun _ => false) before (m ++ (w ++ (d ++ b))) =
      some ⟨m ++ w, d.take 5, d.drop 5 ++ b⟩ := by
  obtain ⟨c, d', hcons⟩ := List.exists_cons_of_ne_nil hne
  have hfirst : ∀ x ∈ (d ++ b).head?, x.isDigit = true := by
    intro x hx
    rw [hcons, List.cons_append] at hx
    cases hx
    exact hd c (by rw [hcons]; exact List.mem_cons_self)
  rw [Regex.Pattern.matchAt_of_unique (mem_lead_of_marker hm hw)]
  · have hrun : (d ++ b).takeWhile Char.isDigit = d := by
      rw [List.takeWhile_append_of_pos hd]
      cases b with
      | nil => rw [List.takeWhile_nil, List.append_nil]
      | cons x b =>
        rw [List.takeWhile_cons_of_neg (by rw [hb x rfl]; exact Bool.false_ne_true), List.append_nil]
    have hlongest : 1 ≤ min 5 ((d ++ b).takeWhile Char.isDigit).length := by
      rw [hrun]
      exact Nat.le_min.2 ⟨by decide, List.length_pos_iff.2 hne⟩
    have hends : lanOutputPattern.tail.ends (fun _ => false) (Regex.wordLast (fun _ => false) before (m ++ w)) (d ++ b) =
        (Regex.splits Char.isDigit 1 (some 5) (d ++ b)).reverse := rfl
    have hle : min 5 d.length ≤ d.length := Nat.min_le_right _ _
    rw [hends, Regex.head?_splits_reverse hlongest, hrun, Option.map_some, List.take_append_of_le_length hle,
      List.drop_append_of_le_length hle, ← List.take_eq_take_min, ← List.drop_eq_drop_min]
  · -- another lead leaves white space in front of the digits
    intro e he hother
    refine List.eq_nil_iff_forall_not_mem.2 fun y hy => hother ?_
    obtain ⟨happend, hleast, -, hall⟩ := Regex.mem_splits ((Regex.mem_ends_rep _).1 hy)
    obtain ⟨x, z, hx⟩ := List.exists_cons_of_ne_nil (List.length_pos_iff.1 hleast)
    have hdigit : ∀ x ∈ e.2.head?, x.isDigit = true := by
      intro x' hx'
      rw [← happend, hx, List.cons_append] at hx'
      cases hx'
      exact hall x (by rw [hx]; exact List.mem_cons_self)
    obtain ⟨m', w', hm', hw', hlead, hsame⟩ := marker_of_mem_lead he
    cases hm.eq_of_append hm' hsame
    have hbehind := List.append_cancel_left hsame
    have hspace : w = w' := by
      rw [← takeWhile_space hw hfirst, hbehind, takeWhile_space hw' hdigit]
    subst hspace
    exact Prod.ext hlead (List.append_cancel_left hbehind).symm

namespace MarkerLine

variable {line a m w d b : List Char}

/-- What trimming takes from a line is in front of the marker and behind the digits. -/
theorem trim_eq (h : MarkerLine line a m w d b) : ∃ x y a' b', a = x ++ a' ∧ b = b' ++ y ∧
    Text.trim line = a' ++ (m ++ (w ++ (d ++ b'))) := by
  have hne : m ++ (w ++ d) ≠ [] := List.append_ne_nil_of_left_ne_nil h.marker.ne_nil _
  have hhead : ∀ c ∈ (m ++ (w ++ d)).head?, Text.isWhitespace c = false := by
    rw [List.head?_append_of_ne_nil m h.marker.ne_nil]
    exact h.marker.head_not_space
  have hlast : ∀ c ∈ (m ++ (w ++ d)).getLast?, Text.isWhitespace c = false := by
    intro c hc
    rw [List.getLast?_append_of_ne_nil _ (List.append_ne_nil_of_right_ne_nil w h.digits_ne),
      List.getLast?_append_of_ne_nil _ h.digits_ne] at hc
    exact not_space_of_digit (h.digits c (List.mem_of_getLast? hc))
  refine ⟨a.takeWhile Text.isWhitespace, b.rtakeWhile Text.isWhitespace, _, _, (List.takeWhile_append_dropWhile).symm,
    List.rdropWhile_append_rtakeWhile.symm, ?_⟩
  have hline : line = a ++ (m ++ (w ++ d)) ++ b := by
    rw [h.line_eq]
    simp only [List.append_assoc]
  rw [hline, Text.trim_append hne hhead hlast]
  simp only [List.append_assoc]

theorem search_eq (h : MarkerLine line a m w d b) :
    ∃ a' b', lanOutputPattern.search (fun _ => false) false (Text.trim line) =
      some (a', ⟨m ++ w, d.take 5, d.drop 5 ++ b'⟩) := by
  obtain ⟨x, y, a', b', rfl, rfl, htrim⟩ := h.trim_eq
  have hmaximal : ∀ c ∈ b'.head?, c.isDigit = false := by
    intro c hc
    refine h.maximal c ?_
    cases b' with
    | nil => cases hc
    | cons e b' => exact hc
  have hfound := fun before => matchAt_of_marker before h.marker h.space h.digits_ne h.digits hmaximal
  have hparts : (m ++ w) ++ (d.take 5 ++ (d.drop 5 ++ b')) = m ++ (w ++ (d ++ b')) := by
    rw [← List.append_assoc (d.take 5), List.take_append_drop, List.append_assoc]
  refine ⟨a', b', Regex.Pattern.search_eq_some.2 ⟨?_, ?_, fun b₁ c hsplit hc => ?_⟩⟩
  · rw [htrim, hparts]
  · rw [hparts]
    exact hfound _
  · -- an earlier match would start with another marker
    rw [hparts]
    cases hearlier : lanOutputPattern.matchAt (fun _ => false) (Regex.wordLast (fun _ => false) false b₁)
        (c ++ (m ++ (w ++ (d ++ b')))) with
    | none => rfl
    | some found =>
      obtain ⟨m', w', hm', -, -, hsame⟩ := marker_of_mem_lead (Regex.Pattern.mem_of_matchAt hearlier).1
      have hbehind := congrArg (· ++ y) hsame
      simp only [List.append_assoc] at hbehind
      have honce := h.once (x ++ b₁) m' (w' ++ (found.tail ++ (found.rest ++ y))) (by
        rw [h.line_eq, hsplit]
        simp only [List.append_assoc, hbehind]) hm'
      rw [hsplit, ← List.append_assoc] at honce
      exact absurd (List.append_right_eq_self.1 honce.symm) hc

end MarkerLine

/-! ## Five digits of a number -/

theorem ofDigitChars_lt {d : List Char} (h : ∀ c ∈ d, c.isDigit = true) : Nat.ofDigitChars 10 d 0 < 10 ^ d.length := by
  induction d with
  | nil => rw [Nat.ofDigitChars_nil]; exact Nat.pow_pos (by decide)
  | cons c d ih =>
    have hc : c.toNat - '0'.toNat ≤ 9 := Nat.sub_le_of_le_add (digit_toNat (h c List.mem_cons_self)).2
    have hrest := ih fun x hx => h x (List.mem_cons_of_mem c hx)
    rw [Nat.ofDigitChars_cons, Nat.ofDigitChars_eq_ofDigitChars_zero, List.length_cons, Nat.pow_succ, Nat.mul_zero,
      Nat.zero_add]
    nlinarith

/-- A number of more than five digits is at least ten times its first five. -/
theorem ofDigitChars_take_le {d : List Char} (h : 5 < d.length) :
    10 * Nat.ofDigitChars 10 (d.take 5) 0 ≤ Nat.ofDigitChars 10 d 0 := by
  have hsplit : Nat.ofDigitChars 10 d 0 =
      10 ^ (d.drop 5).length * Nat.ofDigitChars 10 (d.take 5) 0 + Nat.ofDigitChars 10 (d.drop 5) 0 := by
    rw [← Nat.ofDigitChars_eq_ofDigitChars_zero, ← Nat.ofDigitChars_append, List.take_append_drop]
  have hpow : 10 ^ 1 ≤ 10 ^ (d.drop 5).length :=
    Nat.pow_le_pow_right (by decide) (by rw [List.length_drop]; omega)
  rw [hsplit]
  exact (Nat.mul_le_mul_right _ hpow).trans (Nat.le_add_right _ _)

theorem denoted_eq_some {d : List Char} {port : Int} (h : isValidPort port = true) :
    some port = denoted d ↔ port = Nat.ofDigitChars 10 d 0 := by
  unfold denoted
  split
  · exact Option.some_inj
  · rename_i hinvalid
    exact iff_of_false nofun fun heq => hinvalid (heq ▸ h)

/-- **What the first five digits of a run stand for is what the run stands for.** -/
theorem denoted_take_iff (d : List Char) : denoted (d.take 5) = denoted d ↔
    d.length ≤ 5 ∨ 65535 < Nat.ofDigitChars 10 (d.take 5) 0 ∨
      (Nat.ofDigitChars 10 (d.take 5) 0 = 0 ∧ denoted d = none) := by
  by_cases hlength : d.length ≤ 5
  · rw [List.take_of_length_le hlength]
    exact iff_of_true rfl (.inl hlength)
  · have hle := ofDigitChars_take_le (Nat.lt_of_not_le hlength)
    by_cases hvalid : isValidPort (Nat.ofDigitChars 10 (d.take 5) 0) = true
    · have hrange := isValidPort_iff.1 hvalid
      have hfirst : denoted (d.take 5) = some ↑(Nat.ofDigitChars 10 (d.take 5) 0) := if_pos hvalid
      rw [hfirst, denoted_eq_some hvalid]
      refine iff_of_false (by omega) ?_
      rintro (h | h | ⟨h, -⟩) <;> omega
    · have hfirst : denoted (d.take 5) = none := if_neg hvalid
      have hnot : denoted d = none ↔ ¬ isValidPort (Nat.ofDigitChars 10 d 0) = true := by
        unfold denoted
        split <;> simp_all
      rw [isValidPort_iff] at hvalid hnot
      rw [hfirst, eq_comm, hnot]
      omega

theorem outputPort_eq {line a m w d b : List Char} (h : MarkerLine line a m w d b) :
    outputPort (Text.trim line) = denoted (d.take 5) := by
  obtain ⟨a', b', hsearch⟩ := h.search_eq
  have hdigits : ∀ c ∈ d.take 5, c.isDigit = true := fun c hc => h.digits c (List.mem_of_mem_take hc)
  have hne : d.take 5 ≠ [] := by
    rw [Ne, List.take_eq_nil_iff]
    exact fun h' => h'.elim (by decide) h.digits_ne
  have hlt : Nat.ofDigitChars 10 (d.take 5) 0 < 10 ^ 5 :=
    (ofDigitChars_lt hdigits).trans_le (Nat.pow_le_pow_right (by decide) (List.length_take_le 5 d))
  unfold outputPort
  rw [hsearch]
  dsimp only
  rw [tryParseInt_digits hne hdigits (hlt.le.trans (by decide))]
  rfl

theorem tryResolvePort_line (net : Addressing) {line : String} {a m w d b : List Char}
    (h : MarkerLine line.toList a m w d b) :
    tryResolvePort net (some line) = match endpointPort net (Text.trim line.toList) with
      | some port => some port
      | none => denoted (d.take 5) := by
  obtain ⟨c, m', hm⟩ := List.exists_cons_of_ne_nil h.marker.ne_nil
  have hc : c ∈ m := by rw [hm]; exact List.mem_cons_self
  have hspace : isNullOrWhiteSpace (some line) = false := by
    refine List.all_eq_false.2 ⟨c, ?_, ?_⟩
    · rw [h.line_eq]
      simp [hc]
    · rw [h.marker.head_not_space c (by rw [hm]; rfl)]
      exact Bool.false_ne_true
  have hparse : tryParseInt (Text.trim line.toList) = none := by
    obtain ⟨x, y, a', b', -, -, htrim⟩ := h.trim_eq
    cases hsome : tryParseInt (Text.trim line.toList) with
    | none => rfl
    | some n =>
      have hplain := h.marker.not_number hc
      rcases tryParseInt_some hsome c (by rw [htrim]; simp [hc]) with hdigit | hnul
      · rw [hplain.1] at hdigit
        cases hdigit
      · exact absurd hnul hplain.2
  simp only [tryResolvePort, hspace, hparse, Bool.false_eq_true, if_false, outputPort_eq h]

/-- **A line with one marker is resolved to the port its digits denote exactly where it is no endpoint of another port
and the first five digits already denote that port, or none where there is none.**  Whatever is resolved is a port, and
its loopback address is one for the Helper. -/
theorem marker_line_resolves_iff (net : Addressing) {line : String} {a m w d b : List Char}
    (h : MarkerLine line.toList a m w d b) :
    (tryResolvePort net (some line) = denoted d ↔
      match endpointPort net (Text.trim line.toList) with
      | some port => port = Nat.ofDigitChars 10 d 0
      | none => d.length ≤ 5 ∨ 65535 < Nat.ofDigitChars 10 (d.take 5) 0 ∨
          (Nat.ofDigitChars 10 (d.take 5) 0 = 0 ∧ denoted d = none)) ∧
      ∀ text port, tryResolvePort net text = some port → (0 < port ∧ port ≤ 65535) ∧
        ∃ address endpoint, toLoopbackAddress port = .ok address ∧ validateLoopbackAddress address = .ok endpoint := by
  constructor
  · rw [tryResolvePort_line net h]
    cases hendpoint : endpointPort net (Text.trim line.toList) with
    | some port => exact denoted_eq_some (endpointPort_valid hendpoint)
    | none => exact denoted_take_iff d
  · intro text port hresolve
    have hvalid := tryResolvePort_valid hresolve
    exact ⟨isValidPort_iff.1 hvalid, toLoopbackAddress_valid hvalid⟩

/-! ### Two lines of a game -/

/-- A line has one marker where no marker is found at another place. -/
theorem once_of_places {line : List Char} {n : Nat}
    (h : ((List.range line.length).all fun k => k == n ||
      markers.all fun marker => ((line.drop k).take marker.length).map foldCase != marker.map foldCase) = true) :
    ∀ a' m' b', line = a' ++ m' ++ b' → IsMarker m' → a' = line.take n := by
  intro a' m' b' hline hm'
  have hlength : a'.length < line.length := by
    have hpos := List.length_pos_iff.2 hm'.ne_nil
    rw [hline, List.length_append, List.length_append]
    omega
  have hdrop : line.drop a'.length = m' ++ b' := by rw [hline, List.append_assoc, List.drop_left]
  rcases Bool.or_eq_true_iff.1 (List.all_eq_true.1 h a'.length (List.mem_range.2 hlength)) with hplace | hnone
  · rw [← beq_iff_eq.1 hplace, hline, List.append_assoc, List.take_left]
  · obtain ⟨k, hk, hfold⟩ := hm'
    have hsame : m'.length = k.length := by
      have hboth := congrArg List.length hfold
      rwa [List.length_map, List.length_map] at hboth
    have hne := List.all_eq_true.1 hnone k hk
    rw [hdrop, ← hsame, List.take_left, hfold, bne_self_eq_false] at hne
    cases hne

/-- Addresses that read no endpoint, as .NET reads none from a text with blanks before a port. -/
def noEndpoints : Addressing := ⟨fun _ => none, fun _ => false⟩

theorem served_line : MarkerLine "Started serving on 54321".toList [] "Started serving on".toList [' '] "54321".toList [] where
  line_eq := by decide
  marker := ⟨_, List.mem_cons_of_mem _ List.mem_cons_self, rfl⟩
  once := once_of_places (n := 0) (by decide)
  space := List.all_eq_true.1 (by decide)
  digits := List.all_eq_true.1 (by decide)
  digits_ne := by decide
  maximal := nofun

theorem served_line_resolves :
    tryResolvePort noEndpoints (some "Started serving on 54321") = denoted "54321".toList :=
  (marker_line_resolves_iff noEndpoints served_line).1.2 (.inl (by decide))

theorem long_line :
    MarkerLine "Local game hosted on port 123456".toList [] "Local game hosted on port".toList [' '] "123456".toList [] where
  line_eq := by decide
  marker := ⟨_, List.mem_cons_self, rfl⟩
  once := once_of_places (n := 0) (by decide)
  space := List.all_eq_true.1 (by decide)
  digits := List.all_eq_true.1 (by decide)
  digits_ne := by decide
  maximal := nofun

/-- The line of a number that is no port is resolved to the port of its first five digits. -/
theorem long_number_is_cut : ∃ line a m w d b, MarkerLine (String.toList line) a m w d b ∧
    endpointPort noEndpoints (Text.trim line.toList) = none ∧ denoted d = none ∧
    tryResolvePort noEndpoints (some line) = some 12345 :=
  ⟨"Local game hosted on port 123456", _, _, _, _, _, long_line, rfl, by decide,
    (tryResolvePort_line noEndpoints long_line).trans (by decide)⟩

end LanAddressResolver

end Terracotta
