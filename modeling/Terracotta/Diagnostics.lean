import Terracotta.Seams
import Terracotta.KeyBlocks
import Terracotta.LanOutput
import Terracotta.Sessions
import Terracotta.Wire
/-!
# Diagnostic reports (`Diagnostics/DiagnosticCollector.cs`)

What a report takes from a room and from a helper's run.  Whatever texts these bring, those of the report hold no GitHub
token and no credential behind `Bearer`, unless the cut of an output to its last units takes away the character that kept a
credential from being one.
-/
namespace Terracotta

open Regex (foldCase wordLast Bounded Starts Masked Found)
open LanAddressResolver (foldCase_of_not_upper foldCase_space)

namespace SensitiveDataRedactor

/-! ## Credentials behind `Bearer` -/

def bearerChar (c : Char) : Bool := (foldCase c).isAlphanum || "._~+/=-".toList.contains c

/-- What stands in front of a credential. -/
structure BearerLead (b ws : List Char) : Prop where
  word : b.map foldCase = "Bearer".toList.map foldCase
  some : ws ≠ []
  space : ∀ c ∈ ws, Text.isWhitespace c = true

/-- The least that `BearerTokenPattern` takes. -/
def BearerWord (w : List Char) : Prop := ∃ b ws c, w = b ++ (ws ++ [c]) ∧ BearerLead b ws ∧ bearerChar c = true

/-- The least that `GitHubTokenPattern` takes. -/
def GitHubWord (w : List Char) : Prop := ∃ c : Char, w = "github_pat_".toList ++ [c] ∧ (c.isAlphanum || c == '_') = true

theorem eq_of_foldCase_b {c : Char} (h : foldCase c = 'b') : c = 'b' ∨ c = 'B' := by
  cases hupper : c.isUpper with
  | false =>
    refine .inl ?_
    rwa [foldCase_of_not_upper hupper (by rintro rfl; exact absurd h (by decide))] at h
  | true =>
    have hn : 65 ≤ c.toNat ∧ c.toNat ≤ 90 := by simpa [Char.isUpper, UInt32.le_iff_toNat_le] using hupper
    have hcases : ∀ n : Fin 26, foldCase (Char.ofNat (65 + n)) = 'b' → (Char.ofNat (65 + n)) = 'B' := by decide
    have hc : Char.ofNat (65 + (c.toNat - 65)) = c := by
      rw [Nat.add_sub_cancel' hn.1, Char.ofNat_toNat]
    have hcase := hcases ⟨c.toNat - 65, by omega⟩
    rw [hc] at hcase
    exact .inr (hcase h)

theorem bearerChar_not_space {c : Char} (h : bearerChar c = true) : Text.isWhitespace c = false := by
  cases hspace : Text.isWhitespace c with
  | false => rfl
  | true =>
    rw [bearerChar, foldCase_space hspace, Bool.or_eq_true] at h
    rcases h with h | h
    · have hn : (65 ≤ c.toNat ∧ c.toNat ≤ 90 ∨ 97 ≤ c.toNat ∧ c.toNat ≤ 122) ∨ 48 ≤ c.toNat ∧ c.toNat ≤ 57 := by
        simpa [Char.isAlphanum, Char.isAlpha, Char.isUpper, Char.isLower, Char.isDigit, UInt32.le_iff_toNat_le] using h
      simp only [Text.isWhitespace, Bool.or_eq_true, Bool.and_eq_true, decide_eq_true_eq, beq_iff_eq] at hspace
      omega
    · have hnone : ("._~+/=-".toList.any Text.isWhitespace) = false := by decide
      exact absurd hspace (by simpa using List.any_eq_false.1 hnone c (List.contains_iff_mem.1 h))

theorem BearerLead.letters {b ws : List Char} (h : BearerLead b ws) : ∀ c ∈ b, bearerChar c = true := by
  intro c hc
  have hmem : foldCase c ∈ "Bearer".toList.map foldCase := h.word ▸ List.mem_map_of_mem hc
  have hall : ("Bearer".toList.map foldCase).all Char.isAlphanum = true := by decide
  rw [bearerChar, List.all_eq_true.1 hall _ hmem, Bool.true_or]

theorem BearerLead.head {b ws : List Char} (h : BearerLead b ws) : ∃ c b', b = c :: b' ∧ (c = 'b' ∨ c = 'B') := by
  have hword := h.word
  cases b with
  | nil => exact absurd hword (by decide)
  | cons c b => exact ⟨c, b, rfl, eq_of_foldCase_b (List.cons.inj hword).1⟩

theorem BearerLead.not_space {b ws : List Char} (h : BearerLead b ws) : ∀ c ∈ b, Text.isWhitespace c = false :=
  fun c hc => bearerChar_not_space (h.letters c hc)

theorem BearerWord.head {w : List Char} (h : BearerWord w) : ∃ c w', w = c :: w' ∧ (c = 'b' ∨ c = 'B') := by
  obtain ⟨b, ws, d, rfl, hlead, -⟩ := h
  obtain ⟨c, b', rfl, hc⟩ := hlead.head
  exact ⟨c, _, rfl, hc⟩

section

variable {words : WordTable} {before : Bool} {s : List Char}

/-- **The pattern takes every word** that stands behind no word character. -/
theorem bearer_takes {w : List Char} (hw : BearerWord w) (y : List Char) :
    bearerTokenPattern.matchAt words.isWord false (w ++ y) ≠ none := by
  obtain ⟨b, ws, c, rfl, hlead, hc⟩ := hw
  obtain ⟨d, b', hb, hd⟩ := hlead.head
  have hword : words.isWord d = true := by
    rcases hd with rfl | rfl
    · exact words.ascii 'b' (by decide)
    · exact words.ascii 'B' (by decide)
  have hbound : ([], b ++ (ws ++ c :: y)) ∈ Regex.Node.bound.ends words.isWord false (b ++ (ws ++ c :: y)) := by
    simp [Regex.ends_bound, hb, hword]
  have hspaces : (ws, c :: y) ∈ Regex.splits Text.isWhitespace 1 none (ws ++ c :: y) :=
    Regex.mem_splits_of_least hlead.space (List.length_pos_iff.2 hlead.some)
  have hmem : (b ++ ws, c :: y) ∈ bearerTokenPattern.lead.ends words.isWord false (b ++ (ws ++ [c]) ++ y) := by
    have happend : b ++ (ws ++ [c]) ++ y = b ++ (ws ++ c :: y) := by simp
    rw [happend]
    exact (Regex.mem_ends_seq _).2 ⟨_, hbound, _, (Regex.mem_ends_seq _).2 ⟨_,
      Regex.mem_ends_word_of_map _ _ _ hlead.word, _, (Regex.mem_ends_rep _).2 hspaces, rfl⟩, rfl⟩
  refine Regex.Pattern.matchAt_ne_none_of_mem hmem ((Regex.mem_ends_rep (e := ([c], y)) _).2 ?_)
  exact Regex.mem_splits_of_least (fun x hx => by cases List.mem_singleton.1 hx; exact hc) (Nat.le_refl 1)

/-- What the pattern takes: a lead behind no word character, and characters of a credential. -/
theorem bearer_of_match {m : Found} (h : bearerTokenPattern.matchAt words.isWord before s = some m) :
    before = false ∧ (∃ b ws, m.lead = b ++ ws ∧ BearerLead b ws) ∧ m.tail ≠ [] ∧ ∀ c ∈ m.tail, bearerChar c = true := by
  obtain ⟨hlead, htail⟩ := Regex.Pattern.mem_of_matchAt h
  obtain ⟨-, hone, -, hall⟩ := Regex.mem_splits ((Regex.mem_ends_rep _).1 htail)
  obtain ⟨x, hx, y, hy, hxy⟩ := (Regex.mem_ends_seq _).1 hlead
  obtain ⟨b, hb, ws, hws, rfl⟩ := (Regex.mem_ends_seq _).1 hy
  obtain ⟨-, hspaces, -, hspace⟩ := Regex.mem_splits ((Regex.mem_ends_rep _).1 hws)
  have hbl : BearerLead b.1 ws.1 := ⟨Regex.mem_ends_word _ hb, List.length_pos_iff.1 hspaces, hspace⟩
  simp only [Regex.ends_bound] at hx
  split at hx
  · rename_i hbound
    cases List.mem_singleton.1 hx
    obtain ⟨d, b', hd, hcase⟩ := hbl.head
    have hhead : (m.lead ++ (m.tail ++ m.rest)).head?.any words.isWord = true := by
      rw [← (Prod.mk.inj hxy).1, hd]
      rcases hcase with rfl | rfl
      · exact words.ascii 'b' (by decide)
      · exact words.ascii 'B' (by decide)
    rw [Regex.Pattern.matchAt_append h] at hhead
    rw [hhead] at hbound
    exact ⟨by simpa using hbound, ⟨b.1, ws.1, (Prod.mk.inj hxy).1.symm, hbl⟩, List.length_pos_iff.1 hone, hall⟩
  · cases hx

theorem github_takes {w : List Char} (h : GitHubWord w) (before : Bool) (y : List Char) :
    githubTokenPattern.matchAt words.isWord before (w ++ y) ≠ none := by
  obtain ⟨c, rfl, hc⟩ := h
  refine Regex.Pattern.matchAt_ne_none_of_mem (List.mem_singleton_self ([], _))
    ((Regex.mem_ends_seq (e := ("github_pat_".toList ++ [c], y)) _).2
      ⟨("github_pat_".toList, c :: y), ?_, ([c], y), ?_, rfl⟩)
  · rw [List.append_assoc]
    exact Regex.mem_ends_word_of_map _ _ _ rfl
  · refine (Regex.mem_ends_rep (e := ([c], y)) _).2 (Regex.mem_splits_of_least (fun x hx => ?_) (Nat.le_refl 1))
    cases List.mem_singleton.1 hx
    exact hc

theorem github_of_match {m : Found} (h : githubTokenPattern.matchAt words.isWord before s = some m) :
    ∃ w, GitHubWord w ∧ w <+: s := by
  obtain ⟨x, hx, y, hy, hxy⟩ := (Regex.mem_ends_seq _).1 (Regex.Pattern.mem_of_matchAt h).2
  obtain ⟨happend, hone, -, hall⟩ := Regex.mem_splits ((Regex.mem_ends_rep _).1 hy)
  obtain ⟨c, z, hc⟩ := List.exists_cons_of_ne_nil (List.length_pos_iff.1 hone)
  have hword := Regex.mem_ends_word _ hx
  rw [List.map_id, List.map_id] at hword
  refine ⟨_, ⟨c, rfl, hall c (hc ▸ List.mem_cons_self)⟩, z ++ y.2, ?_⟩
  have hs := (Regex.ends_append _ hx).trans (Prod.mk.inj (List.mem_singleton.1 (Regex.Pattern.mem_of_matchAt h).1)).2
  rw [hword, ← happend, hc] at hs
  rw [← hs]
  simp only [List.append_assoc, List.cons_append, List.nil_append]

theorem github_search_eq_none_iff :
    githubTokenPattern.search words.isWord before s = none ↔ ∀ w, GitHubWord w → ¬ w <:+: s := by
  rw [Regex.Pattern.search_eq_none]
  constructor
  · rintro h w hw ⟨u, v, rfl⟩
    exact github_takes hw _ v (h u (w ++ v) (List.append_assoc u w v))
  · intro h u t hut
    cases hm : githubTokenPattern.matchAt words.isWord (wordLast words.isWord before u) t with
    | none => rfl
    | some m =>
      obtain ⟨w, hw, hpre⟩ := github_of_match hm
      exact absurd (hpre.isInfix.trans (hut ▸ (List.suffix_append u t).isInfix)) (h w hw)

end

/-! ## What a redacted text holds -/

/-- No pattern takes a token of the text. -/
structure Tokenless (words : WordTable) (text : List Char) : Prop where
  github : githubTokenPattern.search words.isWord false text = none
  bearer : bearerTokenPattern.search words.isWord false text = none

/-- Cut off from `front`, a text holds no token but a credential at its start, where `front` ends in a word character. -/
structure CutTokenless (words : WordTable) (front text : List Char) : Prop where
  github : githubTokenPattern.search words.isWord false text = none
  bearer : ∀ a m, bearerTokenPattern.search words.isWord false text = some (a, m) →
    a = [] ∧ wordLast words.isWord false front = true

theorem Tokenless.cut {words : WordTable} {front text : List Char} (h : Tokenless words (front ++ text)) :
    CutTokenless words front text := by
  have hbehind : ∀ u v, text = u ++ v →
      bearerTokenPattern.matchAt words.isWord (wordLast words.isWord (wordLast words.isWord false front) u) v = none := by
    intro u v huv
    rw [← Regex.wordLast_append]
    exact Regex.Pattern.search_eq_none.1 h.bearer (front ++ u) v (by rw [huv, List.append_assoc])
  refine ⟨github_search_eq_none_iff.2 fun w hw hin => ?_, fun a m hsearch => ?_⟩
  · exact github_search_eq_none_iff.1 h.github w hw (List.infix_append_of_infix_right hin)
  · obtain ⟨hs, hm, -⟩ := Regex.Pattern.search_eq_some.1 hsearch
    have hnone := hbehind a (m.lead ++ (m.tail ++ m.rest)) hs
    constructor
    · by_contra hne
      rw [Regex.wordLast_of_ne_nil hne _ false, hm] at hnone
      cases hnone
    · by_contra hlast
      rw [Bool.eq_false_iff.2 hlast, hm] at hnone
      cases hnone

end SensitiveDataRedactor

/-! ## `DiagnosticCollector` -/

/-- The UTF-16 units of a character. -/
def units (c : Char) : List Nat :=
  if c.toNat < 0x10000 then [c.toNat]
  else [0xD800 + (c.toNat - 0x10000) / 0x400, 0xDC00 + (c.toNat - 0x10000) % 0x400]

theorem utf16_eq (s : String) : utf16 s = s.toList.flatMap units := rfl

/-- What the collector reads of a process's result. -/
structure PluginProcessResult where
  exitCode : Int
  standardOutput : Option String
  standardError : Option String
deriving DecidableEq

/-- Texts that were cut are in UTF-16 units. -/
structure HelperProcessDiagnostic where
  exitCode : Int
  standardOutput : Option (List Nat)
  standardError : Option (List Nat)
deriving DecidableEq

structure TerracottaDiagnosticReport where
  timestamp : Nat
  pluginVersion : String
  helperVersion : Option String
  ipcProtocolVersion : Nat
  scaffoldingProtocolVersion : String
  easyTierVersion : String
  operatingSystem : String
  architecture : String
  roomState : TerracottaRoomState
  roomRole : TerracottaRoomRole
  gameSessionId : Option String
  lanAddress : Option String
  memberCount : Nat
  network : Option TerracottaNetworkStatus
  errorCode : Option String
  errorMessage : Option String
  helperProcess : Option HelperProcessDiagnostic
deriving DecidableEq

/-- `RuntimeInformation`. -/
structure RuntimeInformation where
  osDescription : String
  processArchitecture : String

namespace DiagnosticCollector

def maximumProcessOutputLength : Nat := 16 * 1024

def limitAndRedact (words : WordTable) (value : Option String) : Option (List Nat) :=
  if isNullOrWhiteSpace value then none
  else
    let redacted := utf16 (SensitiveDataRedactor.redact words value)
    if redacted.length ≤ maximumProcessOutputLength then some redacted
    else some (redacted.drop (redacted.length - maximumProcessOutputLength))

inductive ReportFault where
  | argument
  | nullReference -- of the snapshot's members
deriving DecidableEq, Repr

/-- `CreateJson` up to the writing of the report. -/
def report (words : WordTable) (runtime : RuntimeInformation) (pluginVersion : String) (helperVersion : Option String)
    (snapshot : TerracottaRoomSnapshot) (helperResult : Option PluginProcessResult) (timestamp : Nat) :
    Except ReportFault TerracottaDiagnosticReport :=
  if isNullOrWhiteSpace (some pluginVersion) then .error .argument
  else
    match snapshot.members with
    | none => .error .nullReference
    | some members =>
      .ok
        { timestamp
          pluginVersion
          helperVersion
          ipcProtocolVersion := protocolVersion
          scaffoldingProtocolVersion := "legacy-v1-compatible"
          easyTierVersion := "2.6.x-sidecar-optional"
          operatingSystem := runtime.osDescription
          architecture := runtime.processArchitecture
          roomState := snapshot.state
          roomRole := snapshot.role
          gameSessionId := snapshot.gameSessionId
          lanAddress := snapshot.localAddress
          memberCount := members.length
          network := snapshot.network
          errorCode := snapshot.errorCode
          errorMessage := some (SensitiveDataRedactor.redact words snapshot.errorMessage)
          helperProcess := helperResult.map fun result =>
            { exitCode := result.exitCode
              standardOutput := limitAndRedact words result.standardOutput
              standardError := limitAndRedact words result.standardError } }

/-- An output as a report has it: what is left of a redacted text from some unit on, with no token in it but one that the
cut may expose at its start. -/
def Kept (words : WordTable) (value : Option String) (output : List Nat) : Prop :=
  output.length ≤ maximumProcessOutputLength ∧
    ∃ front half text, (SensitiveDataRedactor.redact words value).toList = front ++ text ∧
      output = half ++ text.flatMap units ∧ half.length ≤ 1 ∧ (∀ u ∈ half, 0xDC00 ≤ u ∧ u ≤ 0xDFFF) ∧
      SensitiveDataRedactor.CutTokenless words front text

def exposed (blanks : Nat) : List Char := "Bearer abc".toList ++ ' ' :: List.replicate blanks ' '

open SensitiveDataRedactor in
/-- **The cut can expose a credential**: behind `x` the redactor takes `Bearer` for the end of a word and leaves it, and the
report has what is behind the `x`. -/
theorem cut_exposes_credential {n : Nat} (hn : n + 11 = maximumProcessOutputLength) :
    limitAndRedact asciiWords (some (String.ofList ('x' :: exposed n))) = some ((exposed n).flatMap units) ∧
      bearerTokenPattern.search asciiWords.isWord false (exposed n) ≠ none := by
  have hblanks : ∀ p : Regex.Pattern, 0 < p.width → p.starts ' ' = false → ∀ n,
      p.replace asciiWords.isWord redacted false (List.replicate n ' ') = List.replicate n ' ' := by
    intro p hwidth hstarts n
    have happend : p.replace asciiWords.isWord redacted false (List.replicate n ' ' ++ []) = List.replicate n ' ' ++ _ :=
      Regex.Pattern.replace_append_of_starts hwidth fun c hc => by rw [List.eq_of_mem_replicate hc]; exact hstarts
    rw [List.append_nil] at happend
    rw [happend, Regex.Pattern.replace_none (Regex.Pattern.search_eq_none.2 fun u t hut => ?_), List.append_nil]
    rw [(List.append_eq_nil_iff.1 hut.symm).2]
    exact Regex.Pattern.matchAt_nil hwidth
  have htokens : redactTokens asciiWords ('x' :: exposed n) = 'x' :: exposed n := by
    have hshut : Shut "xBearer abc".toList :=
      ⟨"xBearer a".toList, 'b', 'c', by decide, by decide, by decide, by decide, by decide⟩
    have hword : redactTokens asciiWords "xBearer abc".toList = "xBearer abc".toList := by decide +kernel
    have hrest : redactTokens asciiWords (List.replicate n ' ') = List.replicate n ' ' := by
      simp only [redactTokens]
      rw [hblanks _ (by decide) (by decide), hblanks _ (by decide) (by decide), hblanks _ (by decide) (by decide)]
    have hsplit : redactTokens asciiWords ("xBearer abc".toList ++ ' ' :: List.replicate n ' ') = _ ++ ' ' :: _ :=
      redactTokens_blank (List.replicate n ' ') hshut
    rwa [hword, hrest] at hsplit
  have hkey : privateKeyPattern.replace asciiWords.isWord redacted false ('x' :: exposed n) = 'x' :: exposed n := by
    have hall : ∀ c ∈ 'x' :: exposed n, privateKeyPattern.starts c = false := by
      have hdash : ∀ c, c ≠ '-' → privateKeyPattern.starts c = false := fun c hc => by
        simp [privateKeyPattern, Regex.Pattern.starts, keyLine, Regex.word, Regex.Node.starts, Regex.Node.width]
        exact hc
      have hword : '-' ∉ 'x' :: "Bearer abc".toList := by decide
      refine fun c hc => hdash c ?_
      rintro rfl
      rcases List.mem_append.1 (show '-' ∈ ('x' :: "Bearer abc".toList) ++ ' ' :: List.replicate n ' ' from hc) with hc | hc
      · exact hword hc
      · rcases List.mem_cons.1 hc with hc | hc
        · exact absurd hc (by decide)
        · exact absurd (List.eq_of_mem_replicate hc) (by decide)
    have happend : privateKeyPattern.replace asciiWords.isWord redacted false (('x' :: exposed n) ++ []) =
        ('x' :: exposed n) ++ _ := Regex.Pattern.replace_append_of_starts (by decide) hall
    rw [List.append_nil] at happend
    rw [happend, show privateKeyPattern.replace asciiWords.isWord redacted _ [] = [] from rfl, List.append_nil]
  have hvalue : String.ofList ('x' :: exposed n) ≠ "" := by
    intro h
    have hlist := congrArg String.toList h
    rw [String.toList_ofList] at hlist
    cases hlist
  have hredact : redact asciiWords (some (String.ofList ('x' :: exposed n))) = String.ofList ('x' :: exposed n) := by
    simp only [redact]
    rw [if_neg hvalue, String.toList_ofList, htokens, hkey]
  have hunits : utf16 (String.ofList ('x' :: exposed n)) = 'x'.toNat :: (exposed n).flatMap units := by
    rw [utf16_eq, String.toList_ofList, List.flatMap_cons]
    rfl
  have hlength : ((exposed n).flatMap units).length = maximumProcessOutputLength := by
    have hblank : ∀ n, ((List.replicate n ' ').flatMap units).length = n := by
      intro n
      induction n with
      | zero => rfl
      | succ n ih =>
        rw [List.replicate_succ, List.flatMap_cons, List.length_append, ih]
        rw [units, if_pos (by decide)]
        exact Nat.add_comm 1 n
    have hword : ("Bearer abc".toList.flatMap units).length = 10 := by decide
    show (("Bearer abc".toList ++ ' ' :: List.replicate n ' ').flatMap units).length = _
    rw [List.flatMap_append, List.flatMap_cons, List.length_append, List.length_append, hblank, hword]
    show 10 + (1 + n) = _
    omega
  constructor
  · unfold limitAndRedact
    rw [if_neg (by simp [isNullOrWhiteSpace, Text.isWhitespace])]
    dsimp only
    rw [hredact, hunits, List.length_cons, hlength, if_neg (Nat.not_succ_le_self _), Nat.add_sub_cancel_left]
    rfl
  · have hlead : BearerLead "Bearer".toList [' '] :=
      ⟨rfl, by decide, fun c hc => by rw [List.mem_singleton.1 hc]; decide⟩
    have hw : BearerWord "Bearer a".toList := ⟨_, _, 'a', by decide, hlead, by decide⟩
    have hword : "Bearer abc".toList = "Bearer a".toList ++ "bc".toList := by decide
    have hsplit : "Bearer abc".toList ++ ' ' :: List.replicate n ' ' =
        "Bearer a".toList ++ ("bc".toList ++ ' ' :: List.replicate n ' ') := by rw [hword, List.append_assoc]
    intro hnone
    exact bearer_takes hw _ (Regex.Pattern.search_eq_none.1 hnone [] _ hsplit)

end DiagnosticCollector
end Terracotta
