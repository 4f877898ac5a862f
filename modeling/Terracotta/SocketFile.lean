import Terracotta.Run
/-!
# The socket of the IPC (`ipc/unix.rs`, `LocalIpcEndpoint.cs`)

The Helper binds its socket in the directory the plugin has made, notes which file that is, and removes it as it ends where
the file is still the same; the plugin removes what it finds there, and the directory.  Each call of the system is a step,
and between any two of them other processes of the user may act on the path.  Files are told apart by number, and no file
gets the number of one that is still open.
-/
namespace Terracotta

open Run (run Along)

inductive FileKind
  | socket
  | file
  | directory
  -- a link to nothing, which `Path::exists` does not see
  | brokenLink
deriving DecidableEq

/-- What stands at the path of the socket. -/
structure PathEntry where
  inode : Nat
  kind : FileKind
deriving DecidableEq

/-- `LocalIpcListener::bind`, the time a listener is there, and its `Drop`, by the next call. -/
inductive ListenerPhase
  | checking
  | binding
  | restricting
  | examining
  | listening (inode : Nat)
  | removing
  | gone
deriving DecidableEq

/-- `LocalIpcEndpoint.DisposeAsync`, by the next call. -/
inductive EndpointDisposal
  | idle
  | asking
  | deleting
  | removing
  | disposed
  | failed
deriving DecidableEq

structure SocketFile where
  directory : Bool
  entry : Option PathEntry
  /-- The number of the next file. -/
  inodes : Nat
  helper : ListenerPhase
  /-- The socket the Helper has bound, and the files it has removed. -/
  bound : Option Nat
  removed : List Nat
  plugin : EndpointDisposal
deriving DecidableEq

inductive SocketLabel
  | check
  | bind
  | restrict (permitted : Bool)
  | examine
  -- `run` has ended, and the listener is dropped
  | inspect
  | remove
  -- the process ends without a drop
  | kill
  | look
  | ask
  | delete
  | removeDirectory
  -- another process
  | place (kind : FileKind)
  | clear
deriving DecidableEq

namespace SocketFile

def start : SocketFile := ⟨true, none, 0, .checking, none, [], .idle⟩

/-- `unlink`, which takes no directory. -/
def unlinked (entry : Option PathEntry) : Option PathEntry := entry.filter (·.kind = .directory)

def step (s : SocketFile) : SocketLabel → Option SocketFile
  | .check =>
    if s.helper = .checking then
      match s.entry with
      | some entry => some { s with helper := if entry.kind = .brokenLink then .binding else .gone }
      | none => some { s with helper := .binding }
    else none
  | .bind =>
    if s.helper = .binding then
      if s.directory ∧ s.entry = none then
        some { s with
          entry := some ⟨s.inodes, .socket⟩, inodes := s.inodes + 1, bound := some s.inodes, helper := .restricting }
      else some { s with helper := .gone }
    else none
  -- an error of the two calls behind it leaves the socket where it is
  | .restrict permitted =>
    if s.helper = .restricting then
      match s.entry with
      | some entry =>
        some { s with helper := if permitted ∧ entry.kind ≠ .brokenLink then .examining else .gone }
      | none => some { s with helper := .gone }
    else none
  | .examine =>
    if s.helper = .examining then
      match s.entry with
      | some entry => some { s with helper := .listening entry.inode }
      | none => some { s with helper := .gone }
    else none
  | .inspect => match s.helper with
    | .listening inode =>
      if s.entry = some ⟨inode, .socket⟩ then some { s with helper := .removing } else some { s with helper := .gone }
    | _ => none
  | .remove =>
    if s.helper = .removing then
      some { s with
        entry := unlinked s.entry
        removed := s.removed ++ (s.entry.filter (·.kind ≠ .directory)).toList.map PathEntry.inode
        helper := .gone }
    else none
  | .kill => if s.helper = .gone then none else some { s with helper := .gone }
  | .look =>
    if s.plugin = .idle ∨ s.plugin = .failed then
      some { s with plugin := if s.directory then .asking else .disposed }
    else none
  | .ask =>
    if s.plugin = .asking then
      match s.entry with
      | some entry => some { s with plugin := if entry.kind = .directory then .removing else .deleting }
      | none => some { s with plugin := .removing }
    else none
  | .delete =>
    if s.plugin = .deleting then
      let entry := unlinked s.entry
      some { s with entry, plugin := if entry = none then .removing else .failed }
    else none
  | .removeDirectory =>
    if s.plugin = .removing then
      if s.entry = none then some { s with directory := false, plugin := .disposed } else some { s with plugin := .failed }
    else none
  | .place kind =>
    if s.directory then some { s with entry := some ⟨s.inodes, kind⟩, inodes := s.inodes + 1 } else none
  | .clear => some { s with entry := none }

/-- Nobody puts a file at the path between the Helper's look at it and what the Helper does about it. -/
def Apart (s : SocketFile) : SocketLabel → Prop
  | .place _ => s.helper ≠ .restricting ∧ s.helper ≠ .examining ∧ s.helper ≠ .removing
  | _ => True

/-- The Helper is left to itself: nobody puts a file at the path, and it is not killed. -/
def Calm : SocketLabel → Prop
  | .place _ | .kill | .restrict false => False
  | _ => True

/-- Nobody puts a directory at the path, or anything at all behind the plugin's look at it. -/
def Undisturbed (s : SocketFile) : SocketLabel → Prop
  | .place kind => kind ≠ .directory ∧ s.plugin ≠ .removing
  | .bind => s.plugin ≠ .removing
  | _ => True

/-- The plugin disposes its endpoint while the Helper ends. -/
def bothLabels : List SocketLabel :=
  [.check, .bind, .restrict true, .examine, .look, .inspect, .ask, .remove, .delete, .removeDirectory]

variable {s t : SocketFile} {l : SocketLabel}

/-! ## What a step can do -/

theorem unlinked_some {entry : Option PathEntry} {e : PathEntry} (h : unlinked entry = some e) : entry = some e :=
  (Option.filter_eq_some_iff.1 h).1

theorem unlinked_eq_none {entry : Option PathEntry} (h : ∀ e, entry = some e → e.kind ≠ .directory) :
    unlinked entry = none :=
  Option.eq_none_iff_forall_ne_some.2 fun e he =>
    h e (unlinked_some he) (of_decide_eq_true (Option.filter_eq_some_iff.1 he).2)

/-- A path that was empty and got nothing new is empty. -/
theorem stays_empty {old new : Option PathEntry} (h : ∀ e, new = some e → old = some e) (hold : old = none) : new = none :=
  Option.eq_none_iff_forall_ne_some.2 fun e he => by cases hold.symm.trans (h e he)

/-- What the plugin does, and another process that removes what is there: to the Helper the path is as it was, or empty. -/
structure Recedes (s t : SocketFile) : Prop where
  helper : t.helper = s.helper
  bound : t.bound = s.bound
  removed : t.removed = s.removed
  entry : ∀ e, t.entry = some e → s.entry = some e

/-- **What a step can do.** -/
inductive Moves (s t : SocketFile) : SocketLabel → Prop
  | recedes (l : SocketLabel) (h : Recedes s t) : Moves s t l
  | places (kind : FileKind) (hdirectory : s.directory = true)
      (ht : t = { s with entry := some ⟨s.inodes, kind⟩, inodes := s.inodes + 1 }) : Moves s t (.place kind)
  | checks (hhelper : s.helper = .checking) (ht : t = { s with helper := .binding }) : Moves s t .check
  | binds (hhelper : s.helper = .binding) (hdirectory : s.directory = true) (hentry : s.entry = none)
      (ht : t = { s with
        entry := some ⟨s.inodes, .socket⟩, inodes := s.inodes + 1, bound := some s.inodes, helper := .restricting }) :
      Moves s t .bind
  | restricts (hhelper : s.helper = .restricting) (ht : t = { s with helper := .examining }) : Moves s t (.restrict true)
  | examines (entry : PathEntry) (hhelper : s.helper = .examining) (hentry : s.entry = some entry)
      (ht : t = { s with helper := .listening entry.inode }) : Moves s t .examine
  | inspects (inode : Nat) (hhelper : s.helper = .listening inode) (hentry : s.entry = some ⟨inode, .socket⟩)
      (ht : t = { s with helper := .removing }) : Moves s t .inspect
  | removes (hhelper : s.helper = .removing)
      (ht : t = { s with
        entry := unlinked s.entry
        removed := s.removed ++ (s.entry.filter (·.kind ≠ .directory)).toList.map PathEntry.inode
        helper := .gone }) : Moves s t .remove
  | gives (l : SocketLabel) (hl : l = .kill ∨ l = .restrict false ∨ s.entry = none ∨ s.helper = .checking ∨
      s.helper = .binding ∨ (∃ e, s.entry = some e ∧ e.kind = .brokenLink) ∨
      ∃ inode, s.helper = .listening inode ∧ s.entry ≠ some ⟨inode, .socket⟩)
      (ht : t = { s with helper := .gone }) : Moves s t l

theorem step_moves (h : s.step l = some t) : Moves s t l := by
  cases l with
  | check =>
    simp only [step, Option.ite_none_right_eq_some] at h
    obtain ⟨hhelper, h⟩ := h
    split at h
    · cases h
      split
      · exact .checks hhelper rfl
      · exact .gives _ (.inr (.inr (.inr (.inl hhelper)))) rfl
    · cases h
      exact .checks hhelper rfl
  | bind =>
    simp only [step, Option.ite_none_right_eq_some] at h
    obtain ⟨hhelper, h⟩ := h
    split at h
    · rename_i hfree
      cases h
      exact .binds hhelper hfree.1 hfree.2 rfl
    · cases h
      exact .gives _ (.inr (.inr (.inr (.inr (.inl hhelper))))) rfl
  | restrict permitted =>
    simp only [step, Option.ite_none_right_eq_some] at h
    obtain ⟨hhelper, h⟩ := h
    split at h
    · rename_i entry hentry
      cases h
      split
      · rename_i hallowed
        obtain rfl : permitted = true := hallowed.1
        exact .restricts hhelper rfl
      · rename_i hallowed
        refine .gives _ ?_ rfl
        cases permitted with
        | false => exact .inr (.inl rfl)
        | true => exact .inr (.inr (.inr (.inr (.inr (.inl ⟨entry, hentry, not_not.1 fun hk => hallowed ⟨rfl, hk⟩⟩)))))
    · rename_i hentry
      cases h
      exact .gives _ (.inr (.inr (.inl hentry))) rfl
  | examine =>
    simp only [step, Option.ite_none_right_eq_some] at h
    obtain ⟨hhelper, h⟩ := h
    split at h
    · rename_i entry hentry
      cases h
      exact .examines entry hhelper hentry rfl
    · rename_i hentry
      cases h
      exact .gives _ (.inr (.inr (.inl hentry))) rfl
  | inspect =>
    simp only [step] at h
    split at h
    · rename_i inode hhelper
      split at h
      · rename_i hentry
        cases h
        exact .inspects inode hhelper hentry rfl
      · rename_i hentry
        cases h
        exact .gives _ (.inr (.inr (.inr (.inr (.inr (.inr ⟨inode, hhelper, hentry⟩)))))) rfl
    · cases h
  | remove =>
    simp only [step, Option.ite_none_right_eq_some] at h
    obtain ⟨hhelper, h⟩ := h
    exact .removes hhelper (Option.some.inj h).symm
  | kill =>
    simp only [step] at h
    split at h
    · cases h
    · cases h
      exact .gives _ (.inl rfl) rfl
  | look =>
    simp only [step, Option.ite_none_right_eq_some] at h
    obtain ⟨-, h⟩ := h
    cases h
    exact .recedes _ ⟨rfl, rfl, rfl, fun _ => id⟩
  | ask =>
    simp only [step, Option.ite_none_right_eq_some] at h
    obtain ⟨-, h⟩ := h
    split at h <;> cases h <;> exact .recedes _ ⟨rfl, rfl, rfl, fun _ => id⟩
  | delete =>
    simp only [step, Option.ite_none_right_eq_some] at h
    obtain ⟨-, h⟩ := h
    cases h
    exact .recedes _ ⟨rfl, rfl, rfl, fun _ => unlinked_some⟩
  | removeDirectory =>
    simp only [step, Option.ite_none_right_eq_some] at h
    obtain ⟨-, h⟩ := h
    split at h <;> cases h <;> exact .recedes _ ⟨rfl, rfl, rfl, fun _ => id⟩
  | place kind =>
    simp only [step, Option.ite_none_right_eq_some] at h
    obtain ⟨hdirectory, h⟩ := h
    exact .places kind hdirectory (Option.some.inj h).symm
  | clear =>
    cases h
    exact .recedes _ ⟨rfl, rfl, rfl, fun e he => by cases he⟩

/-! ## The Helper's side -/

/-- **What the Helper goes by is its own socket.** -/
structure OwnOnly (s : SocketFile) : Prop where
  unbound : s.helper = .checking ∨ s.helper = .binding → s.bound = none
  found : s.helper = .restricting ∨ s.helper = .examining ∨ s.helper = .removing →
    ∀ e, s.entry = some e → s.bound = some e.inode
  noted : ∀ inode, s.helper = .listening inode → s.bound = some inode
  removed : ∀ inode ∈ s.removed, s.bound = some inode

theorem ownOnly_start : start.OwnOnly :=
  ⟨fun _ => rfl, fun h => by simp [start] at h, fun inode h => (by cases h), fun inode h => (by cases h)⟩

theorem ownOnly_step (hs : s.OwnOnly) (hl : s.Apart l) (h : s.step l = some t) : t.OwnOnly := by
  cases step_moves h with
  | recedes l hrecedes =>
    obtain ⟨hhelper, hbound, hremoved, hentry⟩ := hrecedes
    refine ⟨?_, fun hphase e he => ?_, ?_, ?_⟩
    · rw [hhelper, hbound]
      exact hs.unbound
    · rw [hhelper] at hphase
      rw [hbound]
      exact hs.found hphase e (hentry e he)
    · rw [hhelper, hbound]
      exact hs.noted
    · rw [hremoved, hbound]
      exact hs.removed
  | places kind hdirectory ht =>
    subst ht
    obtain ⟨hrestricting, hexamining, hremoving⟩ := hl
    refine ⟨hs.unbound, fun hphase => ?_, hs.noted, hs.removed⟩
    rcases hphase with h | h | h
    · exact absurd h hrestricting
    · exact absurd h hexamining
    · exact absurd h hremoving
  | checks hhelper ht =>
    subst ht
    exact ⟨fun _ => hs.unbound (.inl hhelper), fun h => (by simp at h), fun inode h => (by cases h), hs.removed⟩
  | binds hhelper hdirectory hentry ht =>
    subst ht
    refine ⟨fun h => (by simp at h), fun _ e he => ?_, fun inode h => (by cases h), fun inode hin => ?_⟩
    · cases he
      rfl
    · have hbound := hs.removed inode hin
      rw [hs.unbound (.inr hhelper)] at hbound
      cases hbound
  | restricts hhelper ht =>
    subst ht
    exact ⟨fun h => (by simp at h), fun _ => hs.found (.inl hhelper), fun inode h => (by cases h), hs.removed⟩
  | examines entry hhelper hentry ht =>
    subst ht
    refine ⟨fun h => (by simp at h), fun h => (by simp at h), fun inode h => ?_, hs.removed⟩
    cases h
    exact hs.found (.inr (.inl hhelper)) entry hentry
  | inspects inode hhelper hentry ht =>
    subst ht
    refine ⟨fun h => (by simp at h), fun _ e he => ?_, fun inode h => (by cases h), hs.removed⟩
    cases hentry.symm.trans he
    exact hs.noted inode hhelper
  | removes hhelper ht =>
    subst ht
    refine ⟨fun h => (by simp at h), fun h => (by simp at h), fun inode h => (by cases h), fun inode hin => ?_⟩
    rcases List.mem_append.1 hin with hin | hin
    · exact hs.removed inode hin
    · obtain ⟨e, he, rfl⟩ := List.mem_map.1 hin
      exact hs.found (.inr (.inr hhelper)) e (Option.filter_eq_some_iff.1 (Option.mem_toList.1 he)).1
  | gives l hreason ht =>
    subst ht
    exact ⟨fun h => (by simp at h), fun h => (by simp at h), fun inode h => (by cases h), hs.removed⟩

/-- **The Helper removes no file but the socket it has bound**, whatever the plugin and other processes do, as long as they
put nothing at the path between its look and what it does about it. -/
theorem helper_removes_only_its_own (labels : List SocketLabel) (s : SocketFile) (hapart : Along step Apart start labels)
    (hrun : run step start labels = some s) : ∀ inode ∈ s.removed, s.bound = some inode :=
  (Run.invariant OwnOnly (fun _ _ _ hs hl ht => ownOnly_step hs hl ht) ownOnly_start hapart hrun).removed

theorem helper_left_alone_removes_its_own : ∃ s, run step start bothLabels = some s ∧ s.removed = [0] ∧
    ∀ inode ∈ s.removed, s.bound = some inode :=
  ⟨_, rfl, rfl, helper_removes_only_its_own bothLabels _
    ⟨trivial, trivial, trivial, trivial, trivial, trivial, trivial, trivial, trivial, trivial, trivial⟩ rfl⟩

/-- **What stands at the path is the Helper's**, and nothing before it binds or behind its end. -/
structure Swept (s : SocketFile) : Prop where
  before : s.helper = .checking ∨ s.helper = .binding → s.entry = none
  sockets : ∀ e, s.entry = some e → e.kind = .socket
  noted : ∀ inode, s.helper = .listening inode → ∀ e, s.entry = some e → e.inode = inode
  gone : s.helper = .gone → s.entry = none

theorem swept_start : start.Swept :=
  ⟨fun _ => rfl, fun e h => (by cases h), fun inode h => (by cases h), fun h => (by cases h)⟩

theorem swept_step (hs : s.Swept) (hl : Calm l) (h : s.step l = some t) : t.Swept := by
  cases step_moves h with
  | recedes l hrecedes =>
    obtain ⟨hhelper, -, -, hentry⟩ := hrecedes
    have hnone : s.entry = none → t.entry = none := stays_empty hentry
    refine ⟨?_, fun e he => hs.sockets e (hentry e he), ?_, ?_⟩
    · rw [hhelper]
      exact fun hphase => hnone (hs.before hphase)
    · rw [hhelper]
      exact fun inode hphase e he => hs.noted inode hphase e (hentry e he)
    · rw [hhelper]
      exact fun hphase => hnone (hs.gone hphase)
  | places kind hdirectory ht => exact hl.elim
  | checks hhelper ht =>
    subst ht
    exact ⟨fun _ => hs.before (.inl hhelper), hs.sockets, fun inode h => (by cases h), fun h => (by cases h)⟩
  | binds hhelper hdirectory hentry ht =>
    subst ht
    refine ⟨fun h => (by simp at h), fun e he => ?_, fun inode h => (by cases h), fun h => (by cases h)⟩
    cases he
    rfl
  | restricts hhelper ht =>
    subst ht
    exact ⟨fun h => (by simp at h), hs.sockets, fun inode h => (by cases h), fun h => (by cases h)⟩
  | examines entry hhelper hentry ht =>
    subst ht
    refine ⟨fun h => (by simp at h), hs.sockets, fun inode h e he => ?_, fun h => (by cases h)⟩
    cases h
    cases hentry.symm.trans he
    rfl
  | inspects inode hhelper hentry ht =>
    subst ht
    exact ⟨fun h => (by simp at h), hs.sockets, fun inode h => (by cases h), fun h => (by cases h)⟩
  | removes hhelper ht =>
    subst ht
    have hnone : unlinked s.entry = none := unlinked_eq_none fun e he => by
      rw [hs.sockets e he]
      exact FileKind.noConfusion
    exact ⟨fun _ => hnone, fun e he => (by cases hnone.symm.trans he), fun inode h => (by cases h), fun _ => hnone⟩
  | gives l hreason ht =>
    have hnone : s.entry = none := by
      rcases hreason with rfl | rfl | hnone | hhelper | hhelper | ⟨e, he, hkind⟩ | ⟨inode, hhelper, hother⟩
      · exact hl.elim
      · exact hl.elim
      · exact hnone
      · exact hs.before (.inl hhelper)
      · exact hs.before (.inr hhelper)
      · cases hkind.symm.trans (hs.sockets e he)
      · refine Option.eq_none_iff_forall_ne_some.2 fun e he => hother ?_
        rw [he, ← hs.noted inode hhelper e he, ← hs.sockets e he]
    subst ht
    exact ⟨fun h => (by simp at h), hs.sockets, fun inode h => (by cases h), fun _ => hnone⟩

/-- **A Helper that ends leaves no socket**, whenever it ends and whatever the plugin does meanwhile, unless it is killed or
cannot restrict the socket it has bound. -/
theorem ended_helper_leaves_no_socket (labels : List SocketLabel) (s : SocketFile)
    (hcalm : Along step (fun _ => Calm) start labels) (hrun : run step start labels = some s) (hgone : s.helper = .gone) :
    s.entry = none :=
  (Run.invariant Swept (fun _ _ _ hs hl ht => swept_step hs hl ht) swept_start hcalm hrun).gone hgone

theorem both_leave_no_socket : ∃ s, run step start bothLabels = some s ∧ s.entry = none :=
  ⟨_, rfl, ended_helper_leaves_no_socket bothLabels _
    ⟨trivial, trivial, trivial, trivial, trivial, trivial, trivial, trivial, trivial, trivial, trivial⟩ rfl rfl⟩

/-! ## The plugin's side -/

/-- What the Helper does, and another process that removes what is there. -/
structure Leaves (s t : SocketFile) : Prop where
  plugin : t.plugin = s.plugin
  directory : t.directory = s.directory
  entry : ∀ e, t.entry = some e → s.entry = some e

/-- **What a step does to the disposal.** -/
inductive Disposes (s t : SocketFile) (l : SocketLabel) : Prop
  | leaves (h : Leaves s t)
  | appears (kind : FileKind) (hl : l = .bind ∧ kind = .socket ∨ l = .place kind) (hdirectory : s.directory = true)
      (hplugin : t.plugin = s.plugin) (hkept : t.directory = s.directory) (hentry : ∃ inode, t.entry = some ⟨inode, kind⟩)
  | looks (ht : t = { s with plugin := if s.directory then .asking else .disposed })
  | asks (next : EndpointDisposal) (hnext : next = .deleting ∨ next = .removing ∧ ∀ e, s.entry = some e → e.kind = .directory)
      (ht : t = { s with plugin := next })
  | deletes (ht : t = { s with
      entry := unlinked s.entry, plugin := if unlinked s.entry = none then .removing else .failed })
  | removes (hplugin : s.plugin = .removing) (hentry : s.entry = none)
      (ht : t = { s with directory := false, plugin := .disposed })
  | fails (hplugin : s.plugin = .removing) (hentry : s.entry ≠ none) (ht : t = { s with plugin := .failed })

theorem step_disposes (h : s.step l = some t) : Disposes s t l := by
  cases l with
  | check | restrict permitted | examine =>
    simp only [step, Option.ite_none_right_eq_some] at h
    obtain ⟨-, h⟩ := h
    split at h <;> cases h <;> exact .leaves ⟨rfl, rfl, fun _ => id⟩
  | bind =>
    simp only [step, Option.ite_none_right_eq_some] at h
    obtain ⟨-, h⟩ := h
    split at h
    · rename_i hfree
      cases h
      exact .appears .socket (.inl ⟨rfl, rfl⟩) hfree.1 rfl rfl ⟨_, rfl⟩
    · cases h
      exact .leaves ⟨rfl, rfl, fun _ => id⟩
  | inspect =>
    simp only [step] at h
    split at h
    · split at h <;> cases h <;> exact .leaves ⟨rfl, rfl, fun _ => id⟩
    · cases h
  | remove =>
    simp only [step, Option.ite_none_right_eq_some] at h
    obtain ⟨-, h⟩ := h
    cases h
    exact .leaves ⟨rfl, rfl, fun _ => unlinked_some⟩
  | kill =>
    simp only [step] at h
    split at h
    · cases h
    · cases h
      exact .leaves ⟨rfl, rfl, fun _ => id⟩
  | look =>
    simp only [step, Option.ite_none_right_eq_some] at h
    exact .looks (Option.some.inj h.2).symm
  | ask =>
    simp only [step, Option.ite_none_right_eq_some] at h
    obtain ⟨-, h⟩ := h
    split at h
    · rename_i entry hentry
      cases h
      refine .asks _ ?_ rfl
      split
      · rename_i hkind
        refine .inr ⟨rfl, fun e he => ?_⟩
        cases hentry.symm.trans he
        exact hkind
      · exact .inl rfl
    · rename_i hentry
      cases h
      exact .asks _ (.inr ⟨rfl, fun e he => by cases hentry.symm.trans he⟩) rfl
  | delete =>
    simp only [step, Option.ite_none_right_eq_some] at h
    exact .deletes (Option.some.inj h.2).symm
  | removeDirectory =>
    simp only [step, Option.ite_none_right_eq_some] at h
    obtain ⟨hplugin, h⟩ := h
    split at h
    · rename_i hentry
      exact .removes hplugin hentry (Option.some.inj h).symm
    · rename_i hentry
      exact .fails hplugin hentry (Option.some.inj h).symm
  | place kind =>
    simp only [step, Option.ite_none_right_eq_some] at h
    obtain ⟨hdirectory, h⟩ := h
    cases h
    exact .appears kind (.inr rfl) hdirectory rfl rfl ⟨_, rfl⟩
  | clear =>
    cases h
    exact .leaves ⟨rfl, rfl, fun e he => by cases he⟩

/-- **Behind a disposal there is neither the directory nor anything in it.** -/
structure Emptied (s : SocketFile) : Prop where
  entry : s.directory = false → s.entry = none
  disposed : s.plugin = .disposed → s.directory = false

theorem emptied_start : start.Emptied := ⟨fun h => (by cases h), fun h => (by cases h)⟩

theorem emptied_step (hs : s.Emptied) (h : s.step l = some t) : t.Emptied := by
  cases step_disposes h with
  | leaves hleaves =>
    obtain ⟨hplugin, hdirectory, hentry⟩ := hleaves
    refine ⟨fun hd => stays_empty hentry (hs.entry (hdirectory.symm.trans hd)), ?_⟩
    rw [hplugin, hdirectory]
    exact hs.disposed
  | appears kind hl hdirectory hplugin hkept hentry =>
    refine ⟨fun hd => ?_, ?_⟩
    · rw [hkept, hdirectory] at hd
      cases hd
    · rw [hplugin, hkept]
      exact hs.disposed
  | looks ht =>
    subst ht
    refine ⟨hs.entry, fun hd => ?_⟩
    cases hdirectory : s.directory with
    | false => rfl
    | true => simp [hdirectory] at hd
  | asks next hnext ht =>
    subst ht
    refine ⟨hs.entry, fun hd => ?_⟩
    rcases hnext with rfl | ⟨rfl, -⟩ <;> cases hd
  | deletes ht =>
    subst ht
    refine ⟨fun hd => stays_empty (fun _ => unlinked_some) (hs.entry hd), fun hd => ?_⟩
    simp only at hd
    split at hd <;> cases hd
  | removes hplugin hentry ht =>
    subst ht
    exact ⟨fun _ => hentry, fun _ => rfl⟩
  | fails hplugin hentry ht =>
    subst ht
    exact ⟨hs.entry, fun hd => (by cases hd)⟩

/-- A disposal that nobody disturbs finds the path empty when it removes the directory. -/
structure Disposable (s : SocketFile) : Prop where
  kinds : ∀ e, s.entry = some e → e.kind ≠ .directory
  removing : s.plugin = .removing → s.entry = none
  failed : s.plugin ≠ .failed

theorem disposable_start : start.Disposable :=
  ⟨fun e h => (by cases h), fun h => (by cases h), fun h => (by cases h)⟩

theorem disposable_step (hs : s.Disposable) (hl : s.Undisturbed l) (h : s.step l = some t) : t.Disposable := by
  cases step_disposes h with
  | leaves hleaves =>
    obtain ⟨hplugin, hdirectory, hentry⟩ := hleaves
    exact ⟨fun e he => hs.kinds e (hentry e he), fun hphase => stays_empty hentry (hs.removing (hplugin ▸ hphase)),
      hplugin ▸ hs.failed⟩
  | appears kind hl' hdirectory hplugin hkept hentry =>
    obtain ⟨inode, hentry⟩ := hentry
    have hquiet : kind ≠ .directory ∧ s.plugin ≠ .removing := by
      rcases hl' with ⟨rfl, rfl⟩ | rfl
      · exact ⟨FileKind.noConfusion, hl⟩
      · exact hl
    refine ⟨fun e he => ?_, fun hphase => absurd (hplugin ▸ hphase) hquiet.2, hplugin ▸ hs.failed⟩
    cases hentry.symm.trans he
    exact hquiet.1
  | looks ht =>
    subst ht
    refine ⟨hs.kinds, fun hphase => ?_, fun hphase => ?_⟩
    all_goals
      simp only at hphase
      split at hphase <;> cases hphase
  | asks next hnext ht =>
    subst ht
    refine ⟨hs.kinds, fun hphase => ?_, fun hphase => ?_⟩
    · rcases hnext with rfl | ⟨-, hkind⟩
      · cases hphase
      · exact Option.eq_none_iff_forall_ne_some.2 fun e he => hs.kinds e he (hkind e he)
    · rcases hnext with rfl | ⟨rfl, -⟩ <;> cases hphase
  | deletes ht =>
    have hnone : unlinked s.entry = none := unlinked_eq_none hs.kinds
    subst ht
    refine ⟨fun e he => (by cases hnone.symm.trans he), fun _ => hnone, ?_⟩
    simp only [if_pos hnone]
    exact EndpointDisposal.noConfusion
  | removes hplugin hentry ht =>
    subst ht
    exact ⟨hs.kinds, fun _ => hentry, EndpointDisposal.noConfusion⟩
  | fails hplugin hentry ht => exact absurd (hs.removing hplugin) hentry

/-- **The disposal leaves nothing, and does not fail**, whatever the Helper does meanwhile and however it ends, as long as
nobody puts a directory at the path, or anything between the plugin's look at it and the removal of its directory. -/
theorem disposal_leaves_nothing (labels : List SocketLabel) (s : SocketFile)
    (hundisturbed : Along step Undisturbed start labels) (hrun : run step start labels = some s) :
    s.plugin ≠ .failed ∧ (s.plugin = .disposed → s.directory = false ∧ s.entry = none) := by
  have hdisposable : s.Disposable :=
    Run.invariant Disposable (fun _ _ _ hs hl ht => disposable_step hs hl ht) disposable_start hundisturbed hrun
  have hemptied : s.Emptied := Run.invariant_all Emptied (fun _ _ _ hs ht => emptied_step hs ht) emptied_start hrun
  exact ⟨hdisposable.failed, fun hdisposed =>
    ⟨hemptied.disposed hdisposed, hemptied.entry (hemptied.disposed hdisposed)⟩⟩

theorem both_leave_nothing : ∃ s, run step start bothLabels = some s ∧ s.plugin = .disposed ∧ s.plugin ≠ .failed ∧
    (s.plugin = .disposed → s.directory = false ∧ s.entry = none) :=
  ⟨_, rfl, rfl, disposal_leaves_nothing bothLabels _
    ⟨trivial, EndpointDisposal.noConfusion, trivial, trivial, trivial, trivial, trivial, trivial, trivial, trivial,
      trivial⟩ rfl⟩

end SocketFile

end Terracotta
