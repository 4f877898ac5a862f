import Terracotta.Contracts
/-!
# `RoomStateMachine`

The plugin's room state and the table of the transitions it allows.  A transition outside the table throws; `Faulted`
is in every row but its own, so a fault can always be recorded.
-/
namespace Terracotta

namespace TerracottaRoomState

/-- The member's name, as an interpolated string prints it. -/
def name : TerracottaRoomState → String
  | .idle => "Idle"
  | .waitingForGame => "WaitingForGame"
  | .waitingForLan => "WaitingForLan"
  | .creating => "Creating"
  | .joining => "Joining"
  | .connected => "Connected"
  | .reconnecting => "Reconnecting"
  | .leaving => "Leaving"
  | .faulted => "Faulted"
  | .diagnosing => "Diagnosing"

/-- The states an operation passes through while it holds the gate. -/
def transient : TerracottaRoomState → Bool
  | .creating | .joining | .leaving | .diagnosing => true
  | _ => false

/-- The states `RefreshStatusAsync` and `DiagnoseAsync` ask for. -/
def live : TerracottaRoomState → Bool
  | .connected | .reconnecting | .diagnosing => true
  | _ => false

/-- The states a room that is being left can be in. -/
def closed : TerracottaRoomState → Bool
  | .leaving | .idle | .faulted => true
  | _ => false

/-- The states of a controller without a room. -/
def ended : TerracottaRoomState → Bool
  | .idle | .faulted => true
  | _ => false

def waits : TerracottaRoomState → Bool
  | .waitingForGame | .waitingForLan => true
  | _ => false

def vacant : TerracottaRoomState → Bool
  | .idle | .waitingForGame | .waitingForLan => true
  | _ => false

/-- The states a leave asks the Helper from. -/
def inRoom : TerracottaRoomState → Bool
  | .creating | .joining | .connected | .reconnecting | .leaving | .diagnosing => true
  | _ => false

theorem ended_of_closed {state : TerracottaRoomState} (h : state.closed = true) (ht : state.transient = false) :
    state.ended = true := by
  revert h ht
  cases state <;> decide

theorem closed_of_ended {state : TerracottaRoomState} (h : state.ended = true) : state.closed = true := by
  cases state <;> first | rfl | cases h

theorem not_inRoom_of_ended {state : TerracottaRoomState} (h : state.ended = true) : state.inRoom = false := by
  cases state <;> first | rfl | cases h

theorem not_waits_of_ended {state : TerracottaRoomState} (h : state.ended = true) : state.waits = false := by
  cases state <;> first | rfl | cases h

theorem not_inRoom_of_waits {state : TerracottaRoomState} (h : state.waits = true) : state.inRoom = false := by
  cases state <;> first | rfl | cases h

theorem not_live_of_closed {state : TerracottaRoomState} (h : state.closed = true) : state.live = false := by
  cases state <;> first | rfl | cases h

end TerracottaRoomState

namespace RoomStateMachine

def allowedTransitions : TerracottaRoomState → List TerracottaRoomState
  | .idle => [.waitingForGame, .waitingForLan, .creating, .joining, .faulted]
  | .waitingForGame => [.waitingForLan, .creating, .joining, .idle, .faulted]
  | .waitingForLan => [.creating, .idle, .faulted]
  | .creating => [.connected, .reconnecting, .leaving, .faulted]
  | .joining => [.connected, .reconnecting, .leaving, .faulted]
  | .connected => [.reconnecting, .diagnosing, .leaving, .faulted]
  | .reconnecting => [.connected, .creating, .joining, .diagnosing, .leaving, .faulted]
  | .leaving => [.idle, .faulted]
  | .faulted => [.diagnosing, .idle]
  | .diagnosing => [.connected, .reconnecting, .faulted, .idle]

def canTransitionTo (state next : TerracottaRoomState) : Bool := next = state || next ∈ allowedTransitions state

/-- The state after `TransitionTo`, or the message of the `InvalidOperationException` it throws. -/
def transitionTo (state next : TerracottaRoomState) : Except String TerracottaRoomState :=
  if next = state then .ok state
  else if next ∉ allowedTransitions state then
    .error ("Invalid Terracotta room transition: " ++ state.name ++ " -> " ++ next.name ++ ".")
  else .ok next

/-- `ResetToIdle`: whatever the table says on the way, every branch ends in `Idle`. -/
def resetToIdle (state : TerracottaRoomState) : TerracottaRoomState :=
  if state = .idle then state
  else
    let state := if .leaving ∈ allowedTransitions state then .leaving else state
    if state ≠ .idle ∧ .idle ∈ allowedTransitions state then .idle else .idle

theorem transitionTo_eq (state next : TerracottaRoomState) :
    transitionTo state next = if canTransitionTo state next then .ok next
      else .error ("Invalid Terracotta room transition: " ++ state.name ++ " -> " ++ next.name ++ ".") := by
  unfold transitionTo canTransitionTo
  by_cases h : next = state
  · simp [h]
  · by_cases ha : next ∈ allowedTransitions state <;> simp [h, ha]

@[simp] theorem resetToIdle_eq (state : TerracottaRoomState) : resetToIdle state = .idle := by
  unfold resetToIdle
  split
  · assumption
  · simp

@[simp] theorem transitionTo_faulted (state : TerracottaRoomState) : transitionTo state .faulted = .ok .faulted := by
  cases state <;> rfl

theorem canTransitionTo_idle_of_closed {state : TerracottaRoomState} (h : state.closed = true) :
    canTransitionTo state .idle = true := by
  revert h
  cases state <;> decide

end RoomStateMachine

end Terracotta
