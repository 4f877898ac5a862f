import Mathlib.Data.List.Basic
import Terracotta.Helper
import Terracotta.JsonText
import Terracotta.Run
/-!
# `HelperIpcClient`: calls and the background reader

Every call of `SendAsync` puts a completion under its request id into `_pending` and awaits it; the reader takes entries
out by the id of what it reads, and puts what has no entry into the event channel.  How a call gets its frame onto the
stream is `HelperIpcClient.step`; here it is one phase, which ends well or by an exception.
-/
namespace Terracotta

open Json (Value)

/-- `Guid.ToString("N")`: the 32 digits of the number. -/
def guidText (guid : BitVec 128) : String :=
  String.ofList ((List.range 32).map (fun i => Json.hexDigit (guid.toNat / 16 ^ (31 - i) % 16)))

/-- `TaskCompletionSource<IpcEnvelope>`; a result is the number of the envelope among those read. -/
inductive Completion
  | incomplete
  | result (n : Nat)
  | failed (error : Exn)
  | canceled
deriving DecidableEq, Repr

/-- `TrySetResult`, `TrySetException` and `TrySetCanceled`: the first one wins. -/
def Completion.trySet : Completion → Completion → Completion
  | .incomplete, new => new
  | old, _ => old

/-- A completion stays, or is set to something other than a result. -/
def Completion.Closes (old new : Completion) : Prop := new = old ∨ old = .incomplete ∧ ∀ n, new ≠ .result n

theorem Completion.trySet_closes (old : Completion) {new : Completion} (h : ∀ n, new ≠ .result n) :
    old.Closes (old.trySet new) := by
  cases old with
  | incomplete => exact .inr ⟨rfl, h⟩
  | result n => exact .inl rfl
  | failed error => exact .inl rfl
  | canceled => exact .inl rfl

theorem Completion.Closes.result {old new : Completion} {n : Nat} (h : old.Closes new) (hn : new = .result n) :
    old = .result n := by
  rcases h with h | ⟨-, h⟩
  · exact h ▸ hn
  · exact absurd hn (h n)

theorem Completion.trySet_result {old new : Completion} {n : Nat} (h : old.trySet new = .result n) :
    old = .result n ∨ new = .result n := by
  cases old with
  | incomplete => exact .inr h
  | result m => exact .inl h
  | failed error => cases h
  | canceled => cases h

theorem Completion.Closes.incomplete {old new : Completion} (h : old.Closes new) (hnew : new = .incomplete) :
    old = .incomplete := by
  rcases h with h | ⟨h, -⟩
  · exact h ▸ hnew
  · exact h

theorem Completion.trySet_ne {old new : Completion} (h : new ≠ .incomplete) : old.trySet new ≠ .incomplete := by
  cases old with
  | incomplete => exact h
  | result n => simp [Completion.trySet]
  | failed error => simp [Completion.trySet]
  | canceled => simp [Completion.trySet]

theorem Completion.trySet_of_ne {old : Completion} (new : Completion) (h : old ≠ .incomplete) : old.trySet new = old := by
  cases old with
  | incomplete => exact absurd rfl h
  | result n => rfl
  | failed error => rfl
  | canceled => rfl

inductive IpcPhase (ρ : Type)
  | sending
  | waiting
  | leaving (outcome : Except Exn ρ)
  | ended (outcome : Except Exn ρ)

def IpcPhase.outcome {ρ : Type} : IpcPhase ρ → Option (Except Exn ρ)
  | .leaving outcome | .ended outcome => some outcome
  | .sending | .waiting => none

structure IpcCall (ρ : Type) where
  id : String
  expectedResponseType : String
  /-- `ReadPayload<TResponse>(JsonOptions)`. -/
  read : Value → Option ρ
  token : Bool
  phase : IpcPhase ρ
  completion : Completion

/-- `ReadLoopAsync`: suspended in `ReadAsync`, between `TryRemove` and `TrySetResult`, or inside the walk of its last
`catch`. -/
inductive ReaderPhase
  | reading
  | resolving (n k : Nat)
  | failing (error : Exn) (start : Nat) (visited : List Nat)
  | returned
deriving DecidableEq, Repr

inductive DisposePhase
  | no
  | joining
  | walking (start : Nat) (visited : List Nat)
  | cleared
deriving DecidableEq, Repr

structure DuplexClient (ρ : Type) where
  calls : List (IpcCall ρ)
  pending : List (String × Nat)
  inbound : List Envelope
  events : List Nat
  reader : ReaderPhase
  disposal : DisposePhase

inductive DuplexLabel (ρ : Type)
  | send (guid : BitVec 128) (expectedResponseType : String) (read : Value → Option ρ)
  | sent (i : Nat)
  | sendFails (i : Nat) (error : Exn)
  | cancel (i : Nat)
  | abort (i : Nat)
  | resume (i : Nat) (jsonMessage : String)
  | finish (i : Nat)
  | receive (envelope : Envelope)
  | resolve
  | readerCanceled
  | readerFails (error : Exn)
  | visit (k : Nat)
  | walkEnds
  | dispose
  | joined
  | disposeVisit (k : Nat)
  | clear

variable {ρ : Type}

/-- What `SendAsync` makes of the envelope it is completed with. -/
def IpcCall.response (call : IpcCall ρ) (jsonMessage : String) (inbound : Envelope) : Except Exn ρ := do
  let inbound ← checkResponse jsonMessage call.expectedResponseType inbound
  readPayload jsonMessage (call.read inbound.payload)

namespace DuplexClient

def init : DuplexClient ρ := ⟨[], [], [], [], .reading, .no⟩

def setCall (c : DuplexClient ρ) (i : Nat) (call : IpcCall ρ) : DuplexClient ρ := { c with calls := c.calls.set i call }

/-- `_pending.TryRemove(id, out _)`. -/
def remove (c : DuplexClient ρ) (id : String) : DuplexClient ρ :=
  { c with pending := c.pending.filter (fun entry => entry.1 ≠ id) }

/-- A `foreach` over the concurrent map may end once it has visited the entries that were there from its start and still
are; of those added meanwhile it visits any. -/
def walked (c : DuplexClient ρ) (start : Nat) (visited : List Nat) : Bool :=
  c.pending.all (fun entry => decide (start ≤ entry.2) || visited.contains entry.2)

/-- One entry of such a `foreach`. -/
def complete (c : DuplexClient ρ) (k : Nat) (new : Completion) : Option (DuplexClient ρ) := do
  let call ← c.calls[k]?
  if (call.id, k) ∈ c.pending then some (c.setCall k { call with completion := call.completion.trySet new }) else none

/-- The reader behind a frame it could read. -/
def receive (c : DuplexClient ρ) (envelope : Envelope) : DuplexClient ρ :=
  let n := c.inbound.length
  let c := { c with inbound := c.inbound ++ [envelope] }
  match c.pending.lookup envelope.id with
  | some k => { c.remove envelope.id with reader := .resolving n k }
  -- both branches of `IsPushEvent` enqueue the envelope
  | none => { c with events := c.events ++ [n] }

def step (c : DuplexClient ρ) : DuplexLabel ρ → Option (DuplexClient ρ)
  | .send guid expectedResponseType read =>
    let call : IpcCall ρ := ⟨guidText guid, expectedResponseType, read, false, .sending, .incomplete⟩
    match c.pending.lookup call.id with
    | some _ =>
      let error := .helperProtocol none "Duplicate IPC request id generation failure."
      some { c with calls := c.calls ++ [{ call with phase := .ended (.error error) }] }
    | none => some { c with calls := c.calls ++ [call], pending := c.pending ++ [(call.id, c.calls.length)] }
  | .sent i => do
    let call ← c.calls[i]?
    match call.phase with
    | .sending =>
      -- registering on a token that has fired runs the callback at once
      let completion := if call.token then call.completion.trySet .canceled else call.completion
      some (c.setCall i { call with phase := .waiting, completion })
    | _ => none
  | .sendFails i error => do
    let call ← c.calls[i]?
    match call.phase with
    | .sending => some (c.setCall i { call with phase := .leaving (.error error) })
    | _ => none
  | .cancel i => do
    let call ← c.calls[i]?
    match call.phase with
    | .waiting => some (c.setCall i { call with token := true, completion := call.completion.trySet .canceled })
    | _ => some (c.setCall i { call with token := true })
  | .abort i => do
    let call ← c.calls[i]?
    match call.phase, call.token with
    | .sending, true | .waiting, true => some (c.setCall i { call with phase := .leaving (.error .canceled) })
    | _, _ => none
  | .resume i jsonMessage => do
    let call ← c.calls[i]?
    match call.phase, call.completion with
    | .waiting, .result n => do
      let inbound ← c.inbound[n]?
      some (c.setCall i { call with phase := .leaving (call.response jsonMessage inbound) })
    | .waiting, .failed error => some (c.setCall i { call with phase := .leaving (.error error) })
    | .waiting, .canceled => some (c.setCall i { call with phase := .leaving (.error .canceled) })
    | _, _ => none
  | .finish i => do
    let call ← c.calls[i]?
    match call.phase with
    | .leaving outcome => some ((c.setCall i { call with phase := .ended outcome }).remove call.id)
    | _ => none
  | .receive envelope => if c.reader = .reading then some (c.receive envelope) else none
  | .resolve =>
    match c.reader with
    | .resolving n k => do
      let call ← c.calls[k]?
      some { c.setCall k { call with completion := call.completion.trySet (.result n) } with reader := .reading }
    | _ => none
  | .readerCanceled => if c.reader = .reading then some { c with reader := .returned } else none
  | .readerFails error =>
    if c.reader = .reading then some { c with reader := .failing error c.calls.length [] } else none
  | .visit k =>
    match c.reader with
    | .failing error start visited => do
      let c ← c.complete k (.failed error)
      some { c with reader := .failing error start (k :: visited) }
    | _ => none
  | .walkEnds =>
    match c.reader with
    | .failing _ start visited => if c.walked start visited then some { c with reader := .returned } else none
    | _ => none
  | .dispose => if c.disposal = .no then some { c with disposal := .joining } else some c
  | .joined =>
    -- an exception of the reader's registration is swallowed, so the reader may still run
    if c.disposal = .joining then some { c with disposal := .walking c.calls.length [] } else none
  | .disposeVisit k =>
    match c.disposal with
    | .walking start visited => do
      let c ← c.complete k .canceled
      some { c with disposal := .walking start (k :: visited) }
    | _ => none
  | .clear =>
    match c.disposal with
    | .walking start visited => if c.walked start visited then some { c with pending := [], disposal := .cleared } else none
    | _ => none

/-! ## What a step can do -/

theorem mem_of_lookup {pending : List (String × Nat)} {id : String} {k : Nat} (h : pending.lookup id = some k) :
    (id, k) ∈ pending := by
  obtain ⟨l₁, l₂, rfl, -⟩ := List.lookup_eq_some_iff.1 h
  simp

/-- **What a step can do**: add a call, move one, leave them alone, or one of the reader's three steps with an envelope. -/
inductive Moves (c t : DuplexClient ρ) : Prop
  | adds (call : IpcCall ρ) (guid : BitVec 128) (hid : call.id = guidText guid)
      (hcompletion : call.completion = .incomplete) (houtcome : ∀ r, call.phase.outcome ≠ some (.ok r))
      (hcalls : t.calls = c.calls ++ [call])
      (hpending : t.pending = c.pending ∨ t.pending = c.pending ++ [(call.id, c.calls.length)])
      (hinbound : t.inbound = c.inbound) (hevents : t.events = c.events) (hreader : t.reader = c.reader)
  | moves (i : Nat) (call call' : IpcCall ρ) (hi : c.calls[i]? = some call) (hcalls : t.calls = c.calls.set i call')
      (hid : call'.id = call.id) (hread : call'.read = call.read)
      (hcompletion : call.completion.Closes call'.completion)
      (houtcome : ∀ r, call'.phase.outcome = some (.ok r) → call.phase.outcome = some (.ok r) ∨
        ∃ n envelope jsonMessage, call.completion = .result n ∧ c.inbound[n]? = some envelope ∧
          call.response jsonMessage envelope = .ok r)
      (hpending : t.pending ⊆ c.pending) (hinbound : t.inbound = c.inbound) (hevents : t.events = c.events)
      (hreader : ∀ n k, t.reader = .resolving n k → c.reader = .resolving n k)
  | idles (hcalls : t.calls = c.calls) (hpending : t.pending ⊆ c.pending) (hinbound : t.inbound = c.inbound)
      (hevents : t.events = c.events) (hreader : ∀ n k, t.reader = .resolving n k → c.reader = .resolving n k)
  | takes (envelope : Envelope) (k : Nat) (hk : (envelope.id, k) ∈ c.pending) (hcalls : t.calls = c.calls)
      (hpending : t.pending ⊆ c.pending) (hinbound : t.inbound = c.inbound ++ [envelope]) (hevents : t.events = c.events)
      (hreader : t.reader = .resolving c.inbound.length k)
  | enters (envelope : Envelope) (hcalls : t.calls = c.calls) (hpending : t.pending = c.pending)
      (hinbound : t.inbound = c.inbound ++ [envelope]) (hevents : t.events = c.events ++ [c.inbound.length])
      (hreader : t.reader = .reading)
  | resolves (n k : Nat) (call : IpcCall ρ) (hresolving : c.reader = .resolving n k) (hk : c.calls[k]? = some call)
      (hcalls : t.calls = c.calls.set k { call with completion := call.completion.trySet (.result n) })
      (hpending : t.pending = c.pending) (hinbound : t.inbound = c.inbound) (hevents : t.events = c.events)
      (hreader : t.reader = .reading)

/-- A call that is moved without a new outcome. -/
theorem moves_call {c t : DuplexClient ρ} {i : Nat} {call call' : IpcCall ρ} (hi : c.calls[i]? = some call)
    (ht : t = c.setCall i call') (hid : call'.id = call.id) (hread : call'.read = call.read)
    (hcompletion : call.completion.Closes call'.completion)
    (houtcome : ∀ r, call'.phase.outcome = some (.ok r) → call.phase.outcome = some (.ok r) ∨
      ∃ n envelope jsonMessage, call.completion = .result n ∧ c.inbound[n]? = some envelope ∧
        call.response jsonMessage envelope = .ok r) : c.Moves t := by
  subst ht
  exact .moves i call call' hi rfl hid hread hcompletion houtcome (List.Subset.refl _) rfl rfl fun _ _ h => h

theorem receive_moves (c : DuplexClient ρ) (envelope : Envelope) (hreader : c.reader = .reading) :
    c.Moves (c.receive envelope) := by
  unfold receive
  simp only
  split
  · rename_i k hk
    exact .takes envelope k (mem_of_lookup hk) rfl (List.filter_subset_self _) rfl rfl rfl
  · exact .enters envelope rfl rfl rfl rfl hreader

/-- An entry a `foreach` visits is completed by no envelope. -/
theorem complete_some {c t : DuplexClient ρ} {k : Nat} {new : Completion} (h : c.complete k new = some t) :
    ∃ call, c.calls[k]? = some call ∧ (call.id, k) ∈ c.pending ∧
      t = c.setCall k { call with completion := call.completion.trySet new } := by
  simp only [complete, Option.bind_eq_bind, Option.bind_eq_some_iff, Option.ite_none_right_eq_some,
    Option.some.injEq] at h
  obtain ⟨call, hcall, hmem, rfl⟩ := h
  exact ⟨call, hcall, hmem, rfl⟩

theorem step_moves {c t : DuplexClient ρ} {l : DuplexLabel ρ} (h : c.step l = some t) : c.Moves t := by
  cases l with
  | send guid expectedResponseType read =>
    simp only [step] at h
    split at h <;> cases h
    · exact .adds _ guid rfl rfl (fun r hr => by simp [IpcPhase.outcome] at hr) rfl (.inl rfl) rfl rfl rfl
    · exact .adds _ guid rfl rfl (fun r hr => by simp [IpcPhase.outcome] at hr) rfl (.inr rfl) rfl rfl rfl
  | sent i =>
    simp only [step, Option.bind_eq_bind, Option.bind_eq_some_iff] at h
    obtain ⟨call, hi, h⟩ := h
    split at h
    · cases h
      refine moves_call hi rfl rfl rfl ?_ fun r hr => by simp [IpcPhase.outcome] at hr
      cases call.token with
      | false => exact .inl rfl
      | true => exact Completion.trySet_closes _ (by simp)
    · cases h
  | sendFails i error =>
    simp only [step, Option.bind_eq_bind, Option.bind_eq_some_iff] at h
    obtain ⟨call, hi, h⟩ := h
    split at h
    · cases h
      exact moves_call hi rfl rfl rfl (.inl rfl) fun r hr => by simp [IpcPhase.outcome] at hr
    · cases h
  | cancel i =>
    simp only [step, Option.bind_eq_bind, Option.bind_eq_some_iff] at h
    obtain ⟨call, hi, h⟩ := h
    split at h
    · cases h
      exact moves_call hi rfl rfl rfl (Completion.trySet_closes _ (by simp)) fun r hr => .inl hr
    · cases h
      exact moves_call hi rfl rfl rfl (.inl rfl) fun r hr => .inl hr
  | abort i =>
    simp only [step, Option.bind_eq_bind, Option.bind_eq_some_iff] at h
    obtain ⟨call, hi, h⟩ := h
    split at h <;> cases h
    · exact moves_call hi rfl rfl rfl (.inl rfl) fun r hr => by simp [IpcPhase.outcome] at hr
    · exact moves_call hi rfl rfl rfl (.inl rfl) fun r hr => by simp [IpcPhase.outcome] at hr
  | resume i jsonMessage =>
    simp only [step, Option.bind_eq_bind, Option.bind_eq_some_iff] at h
    obtain ⟨call, hi, h⟩ := h
    split at h
    · rename_i n hphase hcompletion
      simp only [Option.bind_eq_some_iff] at h
      obtain ⟨envelope, hn, h⟩ := h
      cases h
      refine moves_call hi rfl rfl rfl (.inl rfl) fun r hr => .inr ⟨n, envelope, jsonMessage, hcompletion, hn, ?_⟩
      simpa [IpcPhase.outcome] using hr
    · cases h
      exact moves_call hi rfl rfl rfl (.inl rfl) fun r hr => by simp [IpcPhase.outcome] at hr
    · cases h
      exact moves_call hi rfl rfl rfl (.inl rfl) fun r hr => by simp [IpcPhase.outcome] at hr
    · cases h
  | finish i =>
    simp only [step, Option.bind_eq_bind, Option.bind_eq_some_iff] at h
    obtain ⟨call, hi, h⟩ := h
    split at h
    · rename_i outcome hphase
      cases h
      refine .moves i call _ hi rfl rfl rfl (.inl rfl) (fun r hr => .inl ?_) (List.filter_subset_self _) rfl rfl
        fun _ _ hr => hr
      rw [hphase]
      exact hr
    · cases h
  | receive envelope =>
    simp only [step, Option.ite_none_right_eq_some, Option.some.injEq] at h
    obtain ⟨hreader, rfl⟩ := h
    exact receive_moves c envelope hreader
  | resolve =>
    simp only [step] at h
    split at h
    · rename_i n k hreader
      simp only [Option.bind_eq_bind, Option.bind_eq_some_iff] at h
      obtain ⟨call, hk, h⟩ := h
      cases h
      exact .resolves n k call hreader hk rfl rfl rfl rfl rfl
    · cases h
  | readerCanceled =>
    simp only [step, Option.ite_none_right_eq_some, Option.some.injEq] at h
    obtain ⟨-, rfl⟩ := h
    exact .idles rfl (List.Subset.refl _) rfl rfl fun n k hr => by cases hr
  | readerFails error =>
    simp only [step, Option.ite_none_right_eq_some, Option.some.injEq] at h
    obtain ⟨-, rfl⟩ := h
    exact .idles rfl (List.Subset.refl _) rfl rfl fun n k hr => by cases hr
  | visit k =>
    simp only [step] at h
    split at h
    · simp only [Option.bind_eq_bind, Option.bind_eq_some_iff] at h
      obtain ⟨u, hu, h⟩ := h
      cases h
      obtain ⟨call, hk, -, rfl⟩ := complete_some hu
      refine .moves k call _ hk rfl rfl rfl (Completion.trySet_closes _ (by simp)) (fun r hr => .inl hr)
        (List.Subset.refl _) rfl rfl fun n k hr => by cases hr
    · cases h
  | walkEnds =>
    simp only [step] at h
    split at h
    · simp only [Option.ite_none_right_eq_some, Option.some.injEq] at h
      obtain ⟨-, rfl⟩ := h
      exact .idles rfl (List.Subset.refl _) rfl rfl fun n k hr => by cases hr
    · cases h
  | dispose =>
    simp only [step] at h
    split at h <;> cases h
    · exact .idles rfl (List.Subset.refl _) rfl rfl fun n k hr => hr
    · exact .idles rfl (List.Subset.refl _) rfl rfl fun n k hr => hr
  | joined =>
    simp only [step, Option.ite_none_right_eq_some, Option.some.injEq] at h
    obtain ⟨-, rfl⟩ := h
    exact .idles rfl (List.Subset.refl _) rfl rfl fun n k hr => hr
  | disposeVisit k =>
    simp only [step] at h
    split at h
    · simp only [Option.bind_eq_bind, Option.bind_eq_some_iff] at h
      obtain ⟨u, hu, h⟩ := h
      cases h
      obtain ⟨call, hk, -, rfl⟩ := complete_some hu
      refine .moves k call _ hk rfl rfl rfl (Completion.trySet_closes _ (by simp)) (fun r hr => .inl hr)
        (List.Subset.refl _) rfl rfl fun n k hr => hr
    · cases h
  | clear =>
    simp only [step] at h
    split at h
    · simp only [Option.ite_none_right_eq_some, Option.some.injEq] at h
      obtain ⟨-, rfl⟩ := h
      exact .idles rfl (List.nil_subset _) rfl rfl fun n k hr => hr
    · cases h

end DuplexClient

end Terracotta
