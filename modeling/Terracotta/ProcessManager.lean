import Mathlib.Data.List.Basic
/-!
# `HelperProcessManager`

Every method runs inside `_gate`, so its effect on the manager is one step.  `processes` holds the generations whose
process runs, `ended` those whose `OnProcessEndedAsync` waits for the gate, `reports` the `HelperProcessExited` events
it has still to raise.  Times are ticks of 100 ns since `DateTimeOffset.MinValue`.
-/
namespace Terracotta

structure HelperProcessManager where
  client : Option Nat
  generation : Nat
  intentionalStop : Bool
  crashCount : Nat
  crashWindowStart : Nat
  processes : List Nat
  ended : List Nat
  reports : List Bool
deriving DecidableEq, Repr

/-- How far `StopCoreAsync` gets: to its end, or out by an exception while the shutdown request is pending, or by one
after the client was disposed. -/
inductive StopOutcome
  | completed
  | clientKept
  | clientGone
deriving DecidableEq, Repr

namespace HelperProcessManager

def crashWindow : Nat := 100000000

def init : HelperProcessManager := ⟨none, 0, false, 0, 0, [], [], []⟩

/-- `StartCoreAsync` up to the launch of the process. -/
def launch (m : HelperProcessManager) : HelperProcessManager :=
  { m with
    generation := m.generation + 1
    intentionalStop := false
    processes := (m.generation + 1) :: m.processes }

/-- `StopCoreAsync(intentional: true)`. -/
def stopCore (m : HelperProcessManager) (outcome : StopOutcome) : HelperProcessManager :=
  let m := { m with intentionalStop := true }
  match outcome with
  | .clientKept => m
  | .clientGone => { m with client := none }
  | .completed => { m with client := none, crashCount := 0, crashWindowStart := 0 }

/-- `EnsureStartedAsync` when it returns a client. -/
def ensureStarted (m : HelperProcessManager) : HelperProcessManager :=
  match m.client with
  | some _ => m
  | none => { m.launch with client := some (m.generation + 1) }

/-- `EnsureStartedAsync` when `StartCoreAsync` throws, before or after it launched the process. -/
def startFailed (m : HelperProcessManager) (launched : Bool) (outcome : StopOutcome) : HelperProcessManager :=
  (if launched then m.launch else m).stopCore outcome

/-- The process of a generation ends; its task looks at `_intentionalStop` before it asks for the gate. -/
def processExit (m : HelperProcessManager) (generation : Nat) : HelperProcessManager :=
  { m with
    processes := m.processes.erase generation
    ended := if m.intentionalStop then m.ended else m.ended ++ [generation] }

/-- What `OnProcessEndedAsync` counts of an unexpected exit at `now`. -/
def countCrash (m : HelperProcessManager) (now : Nat) : HelperProcessManager :=
  let m := if crashWindow < now - m.crashWindowStart then { m with crashWindowStart := now, crashCount := 0 } else m
  { m with crashCount := m.crashCount + 1 }

def onProcessEnded (m : HelperProcessManager) (generation now : Nat) : HelperProcessManager :=
  if generation ≠ m.generation then m
  else
    let m := { m with client := none }
    if m.intentionalStop then m
    else
      let m := m.countCrash now
      { m with reports := m.reports ++ [decide (m.crashCount ≤ 1)] }

end HelperProcessManager

end Terracotta
