import Terracotta.System
/-!
# Refused calls

A create or a join that finds a room active throws inside the block whose handler publishes a fault, and a join whose
code does not parse publishes one before it asks for the gate.  Either way the active room is `Faulted` afterwards,
while the Helper keeps it open.
-/
namespace Terracotta

open TerracottaController

def TerracottaRoomState.active : TerracottaRoomState → Bool
  | .creating | .joining | .connected | .reconnecting | .diagnosing => true
  | _ => false

namespace Sys

/-- What a refused call should leave as it was. -/
def Untouched (s t : Sys) : Prop :=
  t.controller.stateMachine = s.controller.stateMachine ∧ t.controller.snapshot = s.controller.snapshot ∧
    t.helper.room = s.helper.room

/-- The machine and the published snapshot are `Faulted`, the Helper keeps its room. -/
def FaultsRoom (s t : Sys) : Prop :=
  t.controller.stateMachine = .faulted ∧ t.controller.snapshot.state = .faulted ∧ t.helper = s.helper

theorem not_untouched_of_faultsRoom {s t : Sys} (hs : s.controller.stateMachine.active = true) (h : FaultsRoom s t) :
    ¬ Untouched s t := by
  rintro ⟨hm, -, -⟩
  rw [h.1] at hm
  rw [← hm] at hs
  cases hs

end Sys

theorem unfaulted_of_active {c : TerracottaController} (hc : c.stateMachine.active = true) : c.unfaulted = c := by
  unfold unfaulted
  rw [if_neg (fun h => by rw [h] at hc; cases hc)]

theorem enter_refused (host : Host) (scene : Scene) {c : TerracottaController}
    (hc : c.stateMachine.active = true) : ∀ {op : Op}, op.opens = true →
      c.enter host scene op = (c, .threw (.other "A Terracotta room operation is already active."))
  | .create request, _ => by
    have h := createEnter_enters host scene request c
    rw [unfaulted_of_active hc] at h
    have hclosed : ¬ c.Opens := by
      rintro (h | h | h) <;> rw [h] at hc <;> cases hc
    show c.createEnter host scene request = _
    generalize c.createEnter host scene request = piece at h
    cases h with
    | refused h => rfl
    | waits h => exact absurd h hclosed
    | stuck h => exact absurd h hclosed
    | badPort h => exact absurd h hclosed
    | calls h => exact absurd h hclosed
  | .join request code, _ => by
    have h := joinEnter_enters request code c
    rw [unfaulted_of_active hc] at h
    show c.joinEnter request code = _
    generalize c.joinEnter request code = piece at h
    cases h with
    | refused h => rfl
    | calls h => rw [h] at hc; cases hc

open Sys in
/-- **A refused call faults the active room**: a create or a join that gets the gate while a room is active, and a join
whose code does not parse at whatever time, in every state with an active room. -/
theorem refused_call_faults_room (host : Host) (s : Sys) (hs : s.controller.stateMachine.active = true) :
    (∀ i scene op t, s.controller.waiting[i]? = some op → op.opens = true → step host s (.enter i scene) = some t →
      FaultsRoom s t ∧ ¬ Untouched s t) ∧
    ∀ request t, RoomCode.tryParse request.roomCode = none → step host s (.join request) = some t →
      FaultsRoom s t ∧ ¬ Untouched s t := by
  refine ⟨fun i scene op t hop hopens h => ?_, fun request t hparse h => ?_⟩
  · have hfault : FaultsRoom s t := by
      simp only [step] at h
      split at h
      · rename_i op' hgate hop'
        cases hop.symm.trans hop'
        rw [enter_refused host scene (by exact hs) hopens] at h
        cases h
        have hhandler : Handler.ofOp op = .faults := by cases op <;> first | rfl | cases hopens
        simp [FaultsRoom, Sys.resume, TerracottaController.resume, hhandler, caught, fault, publishFault_eq]
      · cases h
    exact ⟨hfault, not_untouched_of_faultsRoom hs hfault⟩
  · have hfault : FaultsRoom s t := by
      cases h
      simp [FaultsRoom, TerracottaController.join, hparse, publishFault_eq]
    exact ⟨hfault, not_untouched_of_faultsRoom hs hfault⟩

open Sys in
theorem second_create_faults_room :
    ∃ s t, Run.run (step sampleHost) init (createRoom ++ [.create {}]) = some s ∧
      step sampleHost s (.enter 0 sampleScene) = some t ∧ FaultsRoom s t ∧ ¬ Untouched s t := by
  have hall : ∀ s ∈ Run.run (step sampleHost) init (createRoom ++ [.create {}]),
      s.controller.stateMachine.active = true ∧ s.controller.gate = none ∧
        s.controller.waiting[0]? = some (.create {}) := by
    decide +kernel
  cases hs : Run.run (step sampleHost) init (createRoom ++ [.create {}]) with
  | none => exact absurd hs (by decide +kernel)
  | some s =>
    obtain ⟨hactive, hgate, hop⟩ := hall s hs
    obtain ⟨t, ht, -⟩ := step_enter sampleHost sampleScene hgate hop
    have h := (refused_call_faults_room sampleHost s hactive).1 0 sampleScene (.create {}) t hop rfl ht
    exact ⟨s, t, rfl, ht, h⟩

open Sys in
/-- **A double click**: the room is connected on both sides, the second create is refused, and the plugin's side is
`Faulted`. -/
theorem double_create_faults_connected_room :
    ∃ s t, Run.run (step sampleHost) init (createRoom ++ [.create {}]) = some s ∧
      step sampleHost s (.enter 0 sampleScene) = some t ∧
      s.controller.stateMachine = .connected ∧ s.controller.snapshot.state = .connected ∧
      t.controller.stateMachine = .faulted ∧ t.controller.snapshot.state = .faulted ∧
      t.helper.room.state.state = .connected ∧ ¬ Untouched s t := by
  have hall : ∀ s ∈ Run.run (step sampleHost) init (createRoom ++ [.create {}]),
      s.controller.stateMachine = .connected ∧ s.controller.snapshot.state = .connected ∧
        (step sampleHost s (.enter 0 sampleScene)).isSome = true ∧
        ∀ t ∈ step sampleHost s (.enter 0 sampleScene), t.controller.stateMachine = .faulted ∧
          t.controller.snapshot.state = .faulted ∧ t.helper.room.state.state = .connected := by
    decide +kernel
  cases hs : Run.run (step sampleHost) init (createRoom ++ [.create {}]) with
  | none => exact absurd hs (by decide +kernel)
  | some s =>
    obtain ⟨hm, hsnap, hsome, ht⟩ := hall s hs
    obtain ⟨t, hstep⟩ := Option.isSome_iff_exists.1 hsome
    obtain ⟨htm, htsnap, hroom⟩ := ht t hstep
    refine ⟨s, t, rfl, hstep, hm, hsnap, htm, htsnap, hroom, ?_⟩
    rintro ⟨hsame, -, -⟩
    rw [hm, htm] at hsame
    cases hsame

end Terracotta
