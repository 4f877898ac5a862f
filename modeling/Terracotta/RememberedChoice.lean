import Terracotta.Effects
/-!
# The session a create picks when nobody names one

`PersistSelectedSessionAsync` writes the id of the session a room was opened with into `LastSelectedInstanceId`, and
`Select` compares what is there with the ids of instances.
-/
/-! ## The head of a stable sort -/

/-- **What a stable sort puts first**: the element that is before none of the ones in front of it, and not behind any other. -/
theorem head_insertionSort {α : Type} (r : α → α → Prop) [DecidableRel r] [Std.Total r] [IsTrans α r] :
    ∀ (l : List α) (x : α), (l.insertionSort r).head? = some x ↔
      ∃ before after, l = before ++ x :: after ∧ (∀ y ∈ before, ¬ r y x) ∧ ∀ y ∈ after, r x y
  | [], x => by simp
  | a :: l, x => by
    have ih := head_insertionSort r l
    have hsorted := List.pairwise_insertionSort r l
    have hmem : ∀ y, y ∈ l.insertionSort r ↔ y ∈ l := fun y => List.mem_insertionSort r
    rw [List.insertionSort_cons]
    cases hsort : l.insertionSort r with
    | nil =>
      have hl : l = [] := List.eq_nil_iff_forall_not_mem.2 (fun y hy => by
        rw [← hmem, hsort] at hy
        cases hy)
      subst hl
      simp only [List.orderedInsert_nil, List.head?_cons, Option.some.injEq]
      constructor
      · rintro rfl
        exact ⟨[], [], rfl, by simp, by simp⟩
      · rintro ⟨before, after, h, -, -⟩
        cases before with
        | nil => exact (List.cons.inj h).1
        | cons y before => cases before <;> cases h
    | cons b rest =>
      rw [hsort] at hsorted hmem ih
      have hb : b ∈ l := (hmem b).1 List.mem_cons_self
      have hleast : ∀ y ∈ l, y = b ∨ r b y := by
        intro y hy
        rcases List.mem_cons.1 ((hmem y).2 hy) with hy | hy
        · exact .inl hy
        · exact .inr ((List.pairwise_cons.1 hsorted).1 y hy)
      by_cases hab : r a b
      · rw [List.orderedInsert_cons_of_le r rest hab]
        simp only [List.head?_cons, Option.some.injEq]
        constructor
        · rintro rfl
          refine ⟨[], l, rfl, by simp, fun y hy => ?_⟩
          rcases hleast y hy with rfl | hy
          · exact hab
          · exact IsTrans.trans _ _ _ hab hy
        · rintro ⟨before, after, h, hbefore, hafter⟩
          cases before with
          | nil => exact (List.cons.inj h).1
          | cons y before =>
            -- an `x` further down is the least of `l`, and `a` is not behind that one
            obtain ⟨rfl, htail⟩ := List.cons.inj h
            have hx : (b :: rest).head? = some x := (ih x).2
              ⟨before, after, htail, fun y hy => hbefore y (List.mem_cons_of_mem _ hy), hafter⟩
            cases hx
            exact absurd hab (hbefore _ List.mem_cons_self)
      · rw [List.orderedInsert_of_not_le r rest hab, List.head?_cons]
        rw [List.head?_cons] at ih
        rw [ih]
        constructor
        · rintro ⟨before, after, rfl, hbefore, hafter⟩
          have hx : b = x := Option.some.inj ((ih x).2 ⟨before, after, rfl, hbefore, hafter⟩)
          refine ⟨a :: before, after, rfl, fun y hy => ?_, hafter⟩
          rcases List.mem_cons.1 hy with rfl | hy
          · exact hx ▸ hab
          · exact hbefore y hy
        · rintro ⟨before, after, h, hbefore, hafter⟩
          cases before with
          | nil =>
            obtain ⟨rfl, rfl⟩ := List.cons.inj h
            exact absurd (hafter b hb) hab
          | cons y before =>
            obtain ⟨rfl, htail⟩ := List.cons.inj h
            exact ⟨before, after, htail, fun y hy => hbefore y (List.mem_cons_of_mem _ hy), hafter⟩

namespace Terracotta

open TerracottaController Run

/-! ## `Select` without an explicit session -/

theorem startedBefore_total : ∀ a b, startedBefore a b ∨ startedBefore b a := by
  intro a b
  unfold startedBefore
  rcases lt_trichotomy a.startedAt b.startedAt with h | h | h
  · exact .inr (.inl h)
  · rcases le_total (utf16 a.sessionId) (utf16 b.sessionId) with hle | hle
    · exact .inl (.inr ⟨h, hle⟩)
    · exact .inr (.inr ⟨h.symm, hle⟩)
  · exact .inl (.inl h)

theorem startedBefore_trans {a b c : PluginGameSessionSnapshot} (hab : startedBefore a b) (hbc : startedBefore b c) :
    startedBefore a c := by
  unfold startedBefore at *
  rcases hab with hab | ⟨hab, hle⟩
  · rcases hbc with hbc | ⟨hbc, -⟩
    · exact .inl (hbc.trans hab)
    · exact .inl (hbc ▸ hab)
  · rcases hbc with hbc | ⟨hbc, hle'⟩
    · exact .inl (hab ▸ hbc)
    · exact .inr ⟨hab.trans hbc, hle.trans hle'⟩

instance : Std.Total startedBefore := ⟨startedBefore_total⟩

instance : IsTrans PluginGameSessionSnapshot startedBefore := ⟨fun _ _ _ => startedBefore_trans⟩

def runningSessions (sessions : List PluginGameSessionSnapshot) : List PluginGameSessionSnapshot :=
  sessions.filter (·.state = .running)

/-- The running sessions of an instance. -/
def runningOf (sessions : List PluginGameSessionSnapshot) (instanceId : String) : List PluginGameSessionSnapshot :=
  (runningSessions sessions).filter (fun session => session.instanceId = some instanceId)

/-- The running session that started last; of several, the one with the least id, and of these the first in the list. -/
def MostRecent (sessions : List PluginGameSessionSnapshot) (x : PluginGameSessionSnapshot) : Prop :=
  ∃ before after, runningSessions sessions = before ++ x :: after ∧ (∀ y ∈ before, ¬ startedBefore y x) ∧
    ∀ y ∈ after, startedBefore x y

/-- A filter of a sorted list has one element if the filter of the list has it. -/
theorem filter_insertionSort_singleton {α : Type} (r : α → α → Prop) [DecidableRel r] (p : α → Bool) (l : List α) (x : α) :
    (l.insertionSort r).filter p = [x] ↔ l.filter p = [x] := by
  have hperm : (l.insertionSort r).filter p |>.Perm (l.filter p) := (List.perm_insertionSort r l).filter p
  constructor
  · intro h
    rw [h] at hperm
    exact (List.singleton_perm.1 hperm).symm
  · intro h
    rw [h] at hperm
    exact List.perm_singleton.1 hperm

/-- **What `Select` picks of several running sessions when none is named**: the only one of the preferred instance, and
else, if it may, the one that started last. -/
theorem select_several {sessions : List PluginGameSessionSnapshot} {explicit : Option String} {preferred : String}
    {selectMostRecent : Bool} {x : PluginGameSessionSnapshot} (hexplicit : isNullOrWhiteSpace explicit = true)
    (hseveral : 2 ≤ (runningSessions sessions).length) :
    (GameSessionCoordinator.select sessions explicit (some preferred) selectMostRecent).selected = some x ↔
      (isNullOrWhiteSpace (some preferred) = false ∧ runningOf sessions preferred = [x]) ∨
      ((isNullOrWhiteSpace (some preferred) = true ∨ ∀ y, runningOf sessions preferred ≠ [y]) ∧
        selectMostRecent = true ∧ MostRecent sessions x) := by
  have hrecent : ((runningSessions sessions).insertionSort startedBefore).head? = some x ↔ MostRecent sessions x :=
    head_insertionSort startedBefore (runningSessions sessions) x
  have hmatches : ∀ y, ((runningSessions sessions).insertionSort startedBefore).filter
      (fun session => session.instanceId = some preferred) = [y] ↔ runningOf sessions preferred = [y] :=
    fun y => filter_insertionSort_singleton startedBefore _ _ y
  have hlength : ((runningSessions sessions).insertionSort startedBefore).length = (runningSessions sessions).length :=
    List.length_insertionSort startedBefore _
  rw [GameSessionCoordinator.select, show (sessions.filter (·.state = .running)) = runningSessions sessions from rfl]
  generalize (runningSessions sessions).insertionSort startedBefore = running at hrecent hmatches hlength
  rw [← hlength] at hseveral
  match running, hseveral with
  | first :: second :: rest, _ =>
    simp only [hexplicit, Bool.not_true, Bool.false_eq_true, if_false]
    have hfirst : first = x ↔ MostRecent sessions x := by
      rw [← hrecent, List.head?_cons, Option.some.injEq]
    have hfound : ∀ y, (if isNullOrWhiteSpace (some preferred) then []
        else (first :: second :: rest).filter (fun session => session.instanceId = some preferred)) = [y] ↔
          isNullOrWhiteSpace (some preferred) = false ∧ runningOf sessions preferred = [y] := by
      intro y
      cases isNullOrWhiteSpace (some preferred) with
      | true => simp
      | false => simpa using hmatches y
    generalize (if isNullOrWhiteSpace (some preferred) then []
        else (first :: second :: rest).filter (fun session => session.instanceId = some preferred)) = found at hfound
    have hnone : (isNullOrWhiteSpace (some preferred) = true ∨ ∀ y, runningOf sessions preferred ≠ [y]) ↔
        ∀ y, found ≠ [y] := by
      simp only [ne_eq, hfound, not_and]
      cases isNullOrWhiteSpace (some preferred) <;> simp
    rw [hnone, ← hfound, ← hfirst]
    match found with
    | [only] => simp
    | [] => cases selectMostRecent <;> simp
    | y :: z :: more => cases selectMostRecent <;> simp

/-! ## What becomes of the settings -/

section settings

variable {c c' : TerracottaController}

theorem transitionTo_settings {next : TerracottaRoomState} (h : c.transitionTo next = .ok c') : c'.settings = c.settings := by
  obtain ⟨rfl, -⟩ := transitionTo_ok h
  rfl

theorem stopStatusPolling_settings (c : TerracottaController) : c.stopStatusPolling.settings = c.settings := by
  unfold stopStatusPolling
  split <;> rfl

theorem startStatusPolling_settings (c : TerracottaController) : c.startStatusPolling.settings = c.settings :=
  stopStatusPolling_settings c

theorem publishFault_settings (c : TerracottaController) (code message : String) :
    (c.publishFault code message).settings = c.settings := by
  rw [publishFault_eq]

theorem refresh_settings (c : TerracottaController) (poll : Option Nat) : (c.refresh poll).settings = c.settings := by
  unfold TerracottaController.refresh
  split <;> rfl

theorem caught_settings (host : Host) (e : Exn) (c : TerracottaController) (handler : Handler) :
    (c.caught host e handler).settings = c.settings := by
  cases handler with
  | faults | diagnose command | recover =>
    simp only [caught]
    split
    · rfl
    · exact publishFault_settings _ _ _
  | refresh poll =>
    simp only [caught]
    split <;> rfl

theorem resume_settings (host : Host) (handler : Handler) (piece : TerracottaController × Outcome) :
    (TerracottaController.resume host handler piece).settings = piece.1.settings := by
  obtain ⟨d, await | _ | e⟩ := piece
  · rfl
  · cases handler <;> rfl
  · exact caught_settings host e d handler

theorem enter_settings (host : Host) (scene : Scene) (c : TerracottaController) :
    ∀ op, (c.enter host scene op).1.settings = c.settings
  | .create request => by
    have h := createEnter_enters host scene request c
    show (c.createEnter host scene request).1.settings = _
    generalize c.createEnter host scene request = piece at h
    cases h <;> rfl
  | .join request code => by
    have h := joinEnter_enters request code c
    show (c.joinEnter request code).1.settings = _
    generalize c.joinEnter request code = piece at h
    cases h <;> rfl
  | .leave => by
    have h := leaveEnter_enters c
    have hforgotten : c.forgotten.settings = c.settings := stopStatusPolling_settings c
    show c.leaveEnter.1.settings = _
    generalize c.leaveEnter = piece at h
    cases h <;> exact hforgotten
  | .refresh poll | .recover intent => rfl
  | .diagnose command => by
    show (c.diagnoseEnter command).1.settings = _
    unfold diagnoseEnter
    split
    · rfl
    simp only
    split
    · split
      · rfl
      · rename_i d hd
        have hkept := transitionTo_settings hd
        exact hkept
    · rfl

/-- An answer changes the settings only where a create or a join goes on to save them. -/
theorem answered_settings (host : Host) (c : TerracottaController) (response : Envelope) :
    ∀ call, (∀ copies, (c.answered host call response).2 ≠ .wait (.saving copies)) →
      (c.answered host call response).1.settings = c.settings
  | .create request sessionId lanAddress, hsaves => by
    simp only [answered] at hsaves ⊢
    split
    · rfl
    · rename_i connected hread
      simp only [hread] at hsaves
      unfold createConnected at hsaves ⊢
      split
      · rfl
      · rename_i d hd
        simp only [hd] at hsaves
        exact absurd rfl (hsaves .roomCode)
  | .join request code, hsaves => by
    simp only [answered] at hsaves ⊢
    split
    · rfl
    · rename_i connected hread
      simp only [hread] at hsaves
      unfold joinConnected at hsaves ⊢
      split
      · rfl
      · rename_i d hd
        simp only [hd] at hsaves ⊢
        cases hsession : connected.gameSessionId with
        | some sessionId =>
          simp only [hsession] at hsaves
          exact absurd rfl (hsaves _)
        | none =>
          have hkept := transitionTo_settings hd
          exact (startStatusPolling_settings _).trans hkept
  | .leave, _ => rfl
  | .refresh poll, _ => by
    simp only [answered]
    split
    · rfl
    · unfold refreshAnswered
      split
      · rfl
      split
      · simp only
        split
        · exact stopStatusPolling_settings c
        · rename_i d hd
          have hkept := transitionTo_settings hd
          exact hkept.trans (stopStatusPolling_settings c)
      · rfl
  | .diagnose previous command, _ => by
    simp only [answered]
    split
    · rfl
    · unfold diagnoseAnswered
      split
      · rfl
      · rename_i d hd
        split at hd
        · have hkept := transitionTo_settings hd
          exact hkept
        · cases hd; rfl
  | .recover request, _ => by
    simp only [answered]
    split
    · rfl
    · unfold recoverConnected
      split
      · rfl
      · rename_i d hd
        refine (startStatusPolling_settings _).trans ?_
        show d.settings = _
        split at hd
        · have hkept := transitionTo_settings hd
          exact hkept
        · cases hd; rfl

theorem stopped_settings (c : TerracottaController) : ∀ stop, (c.stopped stop).1.settings = c.settings
  | .leaveWaiting => rfl
  | .leaveRoom => by
    show c.leaveStopped.1.settings = _
    unfold leaveStopped
    split
    · rfl
    · rename_i d hd
      have hkept := transitionTo_settings hd
      exact hkept
  | .recover intent => by
    show (c.recoverStopped intent).1.settings = _
    unfold recoverStopped
    split
    · split
      · split <;> rfl
      · rfl
    · split
      · split <;> rfl
      · rfl

theorem begin_settings (c : TerracottaController) (task : Task) : (c.begin task).settings = c.settings := by
  cases task with
  | refresh => exact refresh_settings c none
  | recover =>
    simp only [begin]
    split <;> rfl
  | loadSettings | resumeCreate request | leave => rfl

theorem onHelperProcessExited_settings (willAutoRestart : Bool) (c : TerracottaController) :
    (c.onHelperProcessExited willAutoRestart).settings = c.settings := by
  have hinterrupted : (c.interrupted willAutoRestart).settings = c.settings := by
    simp only [interrupted, toReconnecting_eq, publish]
    exact stopStatusPolling_settings c
  unfold onHelperProcessExited
  split
  · rfl
  simp only
  split
  · exact hinterrupted
  · exact (publishFault_settings _ _ _).trans hinterrupted

theorem push_settings (sequence : Nat) (event : RoomEvent) (c : TerracottaController) :
    (c.onHelperPushEvent (writeEvent sequence event)).settings = c.settings := by
  rw [onHelperPushEvent_writeEvent]
  cases event with
  | stateChanged snapshot => exact stopStatusPolling_settings c
  | networkUpdated network =>
    simp only
    split <;> rfl
  | peerJoined member | peerLeft id | peerUpdated member => rfl

theorem joinCommand_settings (request : TerracottaJoinRoomRequest) (c : TerracottaController) :
    (c.join request).settings = c.settings := by
  unfold TerracottaController.join
  split
  · exact publishFault_settings _ _ _
  · rfl

theorem diagnoseCommand_settings (command : Bool) (c : TerracottaController) :
    (c.diagnose command).settings = c.settings := by
  unfold TerracottaController.diagnose
  split <;> rfl

theorem onGameOutput_settings (host : Host) (sessionId text : String) (c : TerracottaController) :
    (c.onGameOutput host sessionId text).settings = c.settings := by
  unfold onGameOutput
  split
  · rfl
  split
  · split <;> rfl
  · rfl

theorem onLaunchEvent_settings (sessionId : String) (state : PluginGameSessionState) (c : TerracottaController) :
    (c.onLaunchEvent sessionId state).settings = c.settings := by
  unfold onLaunchEvent
  split
  · rfl
  split <;> rfl

theorem pollTick_settings {c d : TerracottaController} (h : c.pollTick = some d) : d.settings = c.settings := by
  unfold pollTick at h
  split at h
  · simp only at h
    split at h
    · cases h; exact refresh_settings _ _
    · cases h; rfl
  · cases h

theorem restartStopped_settings (c : TerracottaController) : c.restartStopped.settings = c.settings := by
  unfold TerracottaController.restartStopped
  split
  · exact publishFault_settings _ _ _
  · rfl

theorem commandFailed_settings (host : Host) (e : Exn) (c : TerracottaController) :
    (c.commandFailed host e).settings = c.settings := by
  unfold TerracottaController.commandFailed
  split
  · exact publishFault_settings _ _ _
  · rfl

end settings

namespace Sys

/-- Settings are loaded, or an answer makes a create or a join save the selection. -/
def Persists (host : Host) (s : Sys) : Label → Prop
  | .settingsLoaded _ _ => True
  | .deliver => ∃ t copies, step host s .deliver = some t ∧ t.controller.gate = some (.saving copies)
  | _ => False

/-- **Every other step keeps the settings.** -/
theorem step_settings {host : Host} {s t : Sys} {l : Label} (hl : ¬ Persists host s l) (h : step host s l = some t) :
    t.controller.settings = s.controller.settings := by
  cases l with
  | settingsLoaded i settings => exact absurd trivial hl
  | deliver =>
    have hsaves : ∀ copies, t.controller.gate ≠ some (.saving copies) := fun copies hgate => hl ⟨t, copies, h, hgate⟩
    simp only [step] at h
    split at h
    · split at h
      · cases h
      · cases h
        refine (resume_settings host _ _).trans ?_
        split
        · rfl
        · rename_i response hresponse
          refine answered_settings host s.controller response _ (fun copies hwait => hsaves copies ?_)
          simp only [hresponse]
          rw [show (Sys.resume host s _ (s.controller.answered host _ response)).controller =
            TerracottaController.resume host _ (s.controller.answered host _ response) from rfl]
          generalize s.controller.answered host _ response = piece at hwait
          obtain ⟨d, outcome⟩ := piece
          cases hwait
          rfl
    · cases h
  | enter i scene =>
    simp only [step] at h
    split at h
    · cases h
      exact (resume_settings host _ _).trans (enter_settings host scene _ _)
    · cases h
  | join request => cases h; exact joinCommand_settings request _
  | refresh => cases h; exact refresh_settings _ _
  | diagnose command => cases h; exact diagnoseCommand_settings command _
  | begin i =>
    simp only [step] at h
    split at h
    · cases h
    · cases h
    · cases h; exact begin_settings _ _
  | startFails launched outcome e | stopFails outcome e | throws e =>
    simp only [step] at h
    split at h
    · cases h; exact resume_settings host _ _
    · cases h
  | stopped =>
    simp only [step] at h
    split at h
    · cases h; exact (resume_settings host _ _).trans (stopped_settings _ _)
    · cases h
  | written =>
    simp only [step] at h
    split at h
    · cases h; exact resume_settings host _ _
    · cases h; exact resume_settings host _ _
    · cases h
  | report i =>
    simp only [step] at h
    split at h
    · cases h
    · cases h; exact onHelperProcessExited_settings _ _
  | push sequence event => cases h; exact push_settings _ _ _
  | gameOutput sessionId text => cases h; exact onGameOutput_settings host sessionId text _
  | launchEvent sessionId state => cases h; exact onLaunchEvent_settings sessionId state _
  | pollTick =>
    simp only [step, Option.map_eq_some_iff] at h
    obtain ⟨c, hc, rfl⟩ := h
    exact pollTick_settings hc
  | restartStopped outcome =>
    simp only [step] at h
    split at h
    · cases h
      show (if outcome = .completed then _ else _ : TerracottaController).settings = _
      split
      · exact restartStopped_settings _
      · rfl
    · cases h
  | commandFailed i =>
    simp only [step] at h
    split at h
    · cases h
    · cases h; exact commandFailed_settings host _ _
  | create request | leave | restartHelper => cases h; rfl
  | cancelWait i | clientReady | handle answers | helperPoll refresh | processExit generation | processEnded i now =>
    simp only [step] at h
    split at h <;> first | (cases h; rfl) | cases h
  | send id =>
    simp only [step] at h
    split at h
    · split at h <;> cases h
      rfl
    · cases h

end Sys

/-! ## The next create -/

/-- The selection `createEnter` goes by. -/
def TerracottaController.selection (scene : Scene) (request : TerracottaCreateRoomRequest) (c : TerracottaController) :
    GameSessionSelection :=
  GameSessionCoordinator.select scene.sessions request.gameSessionId c.settings.lastSelectedInstanceId
    c.settings.autoDetectGameSession

/-- A create that gets to the gateway opens the room of the session it selected. -/
theorem createEnter_selection {host : Host} {scene : Scene} {request : TerracottaCreateRoomRequest}
    {c : TerracottaController} {sessionId lanAddress : String}
    (h : (c.createEnter host scene request).2 = .wait (.calling (.create request sessionId lanAddress) .starting)) :
    ∃ session, (c.selection scene request).selected = some session ∧ session.sessionId = sessionId := by
  have hselection : c.unfaulted.selection scene request = c.selection scene request := rfl
  rw [← hselection]
  unfold createEnter at h
  rw [resetFaultIfNeeded_eq] at h
  generalize c.unfaulted = d at h
  simp only at h
  split at h
  · cases h
  split at h
  · unfold transitionAndPublish at h
    split at h <;> cases h
  rename_i session hsession
  refine ⟨session, hsession, ?_⟩
  split at h
  · unfold transitionAndPublish at h
    split at h <;> cases h
  split at h
  · cases h
  split at h
  · cases h
  · cases h
    rfl

/-- The answer to a create leaves the id of its session in the settings. -/
theorem createConnected_persists {request : TerracottaCreateRoomRequest} {sessionId lanAddress : String}
    {connected : TerracottaRoomSnapshot} {c : TerracottaController} {copies : Copies}
    (h : (c.createConnected request sessionId lanAddress connected).2 = .wait (.saving copies)) :
    (c.createConnected request sessionId lanAddress connected).1.settings.lastSelectedInstanceId = some sessionId := by
  unfold createConnected at h ⊢
  split at h
  · cases h
  · rfl

namespace Sys

/-- Another selection takes the place of the one in the settings. -/
def Overwrites (host : Host) (s : Sys) : Label → Prop
  | .settingsLoaded _ settings => settings.lastSelectedInstanceId ≠ s.controller.settings.lastSelectedInstanceId
  | .deliver => ∃ t copies, step host s .deliver = some t ∧ t.controller.gate = some (.saving copies)
  | _ => False

theorem step_remembers {host : Host} {s t : Sys} {l : Label} (hl : ¬ Overwrites host s l) (h : step host s l = some t) :
    t.controller.settings.lastSelectedInstanceId = s.controller.settings.lastSelectedInstanceId := by
  by_cases hpersists : Persists host s l
  · cases l with
    | settingsLoaded i settings =>
      simp only [step] at h
      split at h
      · cases h
        exact not_not.1 hl
      · cases h
    | deliver => exact absurd hpersists hl
    | _ => exact absurd hpersists id
  · rw [step_settings hpersists h]

theorem deliver_persists {host : Host} {s t : Sys} {request : TerracottaCreateRoomRequest} {sessionId lanAddress : String}
    {client : Nat} {id : String} {copies : Copies}
    (hgate : s.controller.gate = some (.calling (.create request sessionId lanAddress) (.sent client id)))
    (h : step host s .deliver = some t) (hsaving : t.controller.gate = some (.saving copies)) :
    t.controller.settings.lastSelectedInstanceId = some sessionId := by
  simp only [step, hgate] at h
  split at h
  · cases h
  rename_i response _
  cases h
  obtain ⟨hwait, hresume⟩ := resume_gate hsaving
  rw [show (Sys.resume host s _ _).controller = TerracottaController.resume host _ _ from rfl, hresume]
  split at hwait
  · cases hwait
  · simp only [answered] at hwait ⊢
    split at hwait
    · cases hwait
    · exact createConnected_persists hwait

/-- **When a create picks the session of the remembered instance**: where the id of the session that was persisted is also
the id of its instance, or else where no single running session has it for an instance id and the right one started last. -/
def HonoursChoice (sessionId instanceId : String) (autoDetect : Bool) (sessions : List PluginGameSessionSnapshot)
    (x : PluginGameSessionSnapshot) : Prop :=
  (isNullOrWhiteSpace (some sessionId) = false ∧ sessionId = instanceId) ∨
    ((isNullOrWhiteSpace (some sessionId) = true ∨ ∀ y, runningOf sessions sessionId ≠ [y]) ∧ autoDetect = true ∧
      MostRecent sessions x)

theorem mem_runningOf {sessions : List PluginGameSessionSnapshot} {instanceId : String} {x : PluginGameSessionSnapshot}
    (h : x ∈ runningOf sessions instanceId) : x.instanceId = some instanceId := by
  unfold runningOf at h
  exact of_decide_eq_true (List.mem_filter.1 h).2

/-- **What a room's create persists, and what a later create makes of it**: in every run in which no other selection takes
its place, a create without an explicit session selects the only running session of the instance exactly when
`HonoursChoice` says so. -/
theorem persisted_choice_selects_iff (host : Host) (session : PluginGameSessionSnapshot) {s t u : Sys}
    {request : TerracottaCreateRoomRequest} {lanAddress : String} {client : Nat} {id : String} {labels : List Label}
    (hgate : s.controller.gate = some (.calling (.create request session.sessionId lanAddress) (.sent client id)))
    (hdeliver : step host s .deliver = some t) (hsaving : t.controller.gate = some (.saving .roomCode))
    (hkept : Along (step host) (fun s l => ¬ Overwrites host s l) t labels) (hrun : run (step host) t labels = some u)
    (scene : Scene) (later : TerracottaCreateRoomRequest) (hexplicit : isNullOrWhiteSpace later.gameSessionId = true)
    (hseveral : 2 ≤ (runningSessions scene.sessions).length) :
    ∀ instanceId, session.instanceId = some instanceId → ∀ x, runningOf scene.sessions instanceId = [x] →
      ((u.controller.selection scene later).selected = some x ↔
        HonoursChoice session.sessionId instanceId u.controller.settings.autoDetectGameSession scene.sessions x) := by
  intro instanceId _ x honly
  have hlast : u.controller.settings.lastSelectedInstanceId = some session.sessionId :=
    invariant (fun v => v.controller.settings.lastSelectedInstanceId = some session.sessionId)
      (fun v l w hv hl hw => (step_remembers hl hw).trans hv) (deliver_persists hgate hdeliver hsaving) hkept hrun
  have hx : x.instanceId = some instanceId := mem_runningOf (by rw [honly]; exact List.mem_singleton_self x)
  have hsame : runningOf scene.sessions session.sessionId = [x] ↔ session.sessionId = instanceId := by
    constructor
    · intro h
      have hx' : x.instanceId = some session.sessionId := mem_runningOf (by rw [h]; exact List.mem_singleton_self x)
      exact Option.some.inj (hx'.symm.trans hx)
    · rintro h
      rw [h, honly]
  unfold TerracottaController.selection HonoursChoice
  rw [hlast, select_several hexplicit hseveral, hsame]

/-- Two games after the room of `createRoom` was left, the one of its instance started first. -/
def twoGames : Scene :=
  ⟨[⟨"session-2", some "instance-1", .running, 2, none⟩, ⟨"session-3", some "instance-2", .running, 3, none⟩], none⟩

def leaveRoom : List Label :=
  [.written, .leave, .enter 0 sampleScene, .clientReady, .send "b", .handle willingBackend, .deliver, .stopped]

theorem leaveRoom_runs : ∃ s t u, run (step sampleHost) init (createRoom.take 5) = some s ∧
    s.controller.gate =
      some (.calling (.create { lanPort := some 25565 } "session-1" "127.0.0.1:25565") (.sent 1 "a")) ∧
    step sampleHost s .deliver = some t ∧ t.controller.gate = some (.saving .roomCode) ∧
    Along (step sampleHost) (fun s l => ¬ Overwrites sampleHost s l) t leaveRoom ∧
    run (step sampleHost) t leaveRoom = some u ∧ u.controller.stateMachine = .idle ∧
    u.controller.settings.autoDetectGameSession = true ∧
    (u.controller.selection twoGames {}).selected = some ⟨"session-3", some "instance-2", .running, 3, none⟩ := by
  refine ⟨_, _, _, rfl, rfl, rfl, rfl, ⟨id, id, id, id, id, id, ?_, id, trivial⟩, rfl, rfl, rfl, by decide⟩
  -- what is delivered here is the answer to the leave
  rintro ⟨t, copies, ht, hsaving⟩
  cases ht
  cases hsaving

/-- Were the game of the instance the later one, it would be taken. -/
theorem later_game_is_taken : ∃ s t u, s.controller.gate =
      some (.calling (.create { lanPort := some 25565 } "session-1" "127.0.0.1:25565") (.sent 1 "a")) ∧
    step sampleHost s .deliver = some t ∧ run (step sampleHost) t leaveRoom = some u ∧
    (u.controller.selection
      ⟨[⟨"session-3", some "instance-2", .running, 2, none⟩, ⟨"session-2", some "instance-1", .running, 3, none⟩], none⟩
      {}).selected = some ⟨"session-2", some "instance-1", .running, 3, none⟩ := by
  obtain ⟨s, t, u, -, hgate, hdeliver, hsaving, hkept, hrun, -, hauto, -⟩ := leaveRoom_runs
  have hiff := persisted_choice_selects_iff sampleHost ⟨"session-1", some "instance-1", .running, 1, none⟩ hgate hdeliver
    hsaving hkept hrun
    ⟨[⟨"session-3", some "instance-2", .running, 2, none⟩, ⟨"session-2", some "instance-1", .running, 3, none⟩], none⟩ {}
    rfl (by decide) "instance-1" rfl ⟨"session-2", some "instance-1", .running, 3, none⟩ (by decide)
  have hnone : runningOf [⟨"session-3", some "instance-2", .running, 2, none⟩,
      ⟨"session-2", some "instance-1", .running, 3, none⟩] "session-1" = [] := by decide
  refine ⟨s, t, u, hgate, hdeliver, hrun, hiff.2 (.inr ⟨.inr (fun y hy => ?_), hauto, ?_⟩)⟩
  · rw [hnone] at hy
    cases hy
  · exact ⟨[⟨"session-3", some "instance-2", .running, 2, none⟩], [], by decide, by decide, by simp⟩

/-- **The other game is taken**, whatever the settings remember. -/
theorem remembered_instance_is_passed_over : ¬ ∀ (host : Host) (session : PluginGameSessionSnapshot) (s t u : Sys)
    (request : TerracottaCreateRoomRequest) (lanAddress : String) (client : Nat) (id : String) (labels : List Label),
    s.controller.gate = some (.calling (.create request session.sessionId lanAddress) (.sent client id)) →
    step host s .deliver = some t → t.controller.gate = some (.saving .roomCode) →
    Along (step host) (fun s l => ¬ Overwrites host s l) t labels → run (step host) t labels = some u →
    ∀ (scene : Scene) (later : TerracottaCreateRoomRequest), isNullOrWhiteSpace later.gameSessionId = true →
      2 ≤ (runningSessions scene.sessions).length → ∀ instanceId, session.instanceId = some instanceId →
        ∀ x, runningOf scene.sessions instanceId = [x] → (u.controller.selection scene later).selected = some x := by
  intro h
  obtain ⟨s, t, u, -, hgate, hdeliver, hsaving, hkept, hrun, -, -, hother⟩ := leaveRoom_runs
  have hselected := h sampleHost ⟨"session-1", some "instance-1", .running, 1, none⟩ s t u _ _ _ _ leaveRoom hgate hdeliver
    hsaving hkept hrun twoGames {} rfl (by decide) "instance-1" rfl
    ⟨"session-2", some "instance-1", .running, 2, none⟩ (by decide)
  rw [hother] at hselected
  exact absurd hselected (by decide)

end Sys

end Terracotta
