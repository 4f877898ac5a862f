import Terracotta.Framing
import Terracotta.Run
/-!
# `HelperIpcClient.SendAsync`

Any number of calls, each suspended in one of its awaits, share the stream and `_writeGate`.  `IpcFraming.WriteAsync`
writes the header and the payload with two cancellable writes, and a write may be cancelled after any number of bytes;
the `finally` releases the gate on every way out.
-/
namespace Terracotta

open Frames (header encode encodeAll)

/-- The await a call of `SendAsync` is suspended in; a write carries how many of its bytes the stream has taken. -/
inductive SendPhase
  | gate
  | header (n : Nat)
  | payload (n : Nat)
  | flush
  | response
  | ended
deriving DecidableEq, Repr

structure SendCall where
  id : String
  payload : List UInt8
  phase : SendPhase
deriving DecidableEq, Repr

structure HelperIpcClient where
  writeGate : Nat
  pending : List String
  calls : List SendCall
  sent : List UInt8
deriving DecidableEq, Repr

inductive SendLabel
  | send (id : String) (payload : List UInt8)
  | acquire (i : Nat)
  | write (i n : Nat)
  | next (i : Nat)
  | respond (i : Nat)
  | cancel (i : Nat)
deriving DecidableEq, Repr

namespace SendCall

/-- The bytes of its frame the stream has taken from the call, while it is inside `IpcFraming.WriteAsync`. -/
def writing (call : SendCall) : Option (List UInt8) :=
  match call.phase with
  | .header n => some ((header call.payload.length).take n)
  | .payload n => some (header call.payload.length ++ call.payload.take n)
  | .flush => some (encode call.payload)
  | _ => none

def midFrame (call : SendCall) : Bool :=
  match call.phase with
  | .header n => 0 < n
  | .payload n => n < call.payload.length
  | _ => false

/-- The size test of `IpcFraming.WriteAsync`. -/
def sized (call : SendCall) : Bool := 0 < call.payload.length && call.payload.length ≤ maxFrameSize

end SendCall

namespace HelperIpcClient

def init : HelperIpcClient := ⟨1, [], [], []⟩

def setPhase (c : HelperIpcClient) (i : Nat) (call : SendCall) (phase : SendPhase) : HelperIpcClient :=
  { c with calls := c.calls.set i { call with phase } }

/-- The call ends: the outer `finally` drops its pending entry. -/
def finish (c : HelperIpcClient) (i : Nat) (call : SendCall) : HelperIpcClient :=
  { c.setPhase i call .ended with pending := c.pending.erase call.id }

def release (c : HelperIpcClient) : HelperIpcClient := { c with writeGate := c.writeGate + 1 }

def step (c : HelperIpcClient) : SendLabel → Option HelperIpcClient
  | .send id payload =>
    if id ∈ c.pending then some c
    else some { c with pending := id :: c.pending, calls := c.calls ++ [⟨id, payload, .gate⟩] }
  | .acquire i => do
    let call ← c.calls[i]?
    if call.phase = .gate ∧ 0 < c.writeGate then
      -- a payload of the wrong size throws before a byte is written, and the gate is free again
      if call.sized then some { c.setPhase i call (.header 0) with writeGate := c.writeGate - 1 }
      else some (c.finish i call)
    else none
  | .write i n => do
    let call ← c.calls[i]?
    match call.phase with
    | .header k =>
      if k + n ≤ 4 then
        some { c.setPhase i call (.header (k + n)) with
          sent := c.sent ++ ((header call.payload.length).drop k).take n }
      else none
    | .payload k =>
      if k + n ≤ call.payload.length then
        some { c.setPhase i call (.payload (k + n)) with sent := c.sent ++ (call.payload.drop k).take n }
      else none
    | _ => none
  | .next i => do
    let call ← c.calls[i]?
    match call.phase with
    | .header 4 => some (c.setPhase i call (.payload 0))
    | .payload k => if k = call.payload.length then some (c.setPhase i call .flush) else none
    | .flush => some (c.setPhase i call .response).release
    | _ => none
  | .respond i => do
    let call ← c.calls[i]?
    if call.phase = .response then some (c.finish i call) else none
  | .cancel i => do
    let call ← c.calls[i]?
    match call.phase with
    | .gate | .response => some (c.finish i call)
    | .header _ | .payload _ | .flush => some (c.finish i call).release
    | .ended => none

/-- **What a step can do** to the bytes, the gate and the calls. -/
inductive Moves (c t : HelperIpcClient) (l : SendLabel) : Prop
  | same (h : t = c)
  | added (call : SendCall) (hw : call.writing = none) (hc : t.calls = c.calls ++ [call])
      (hg : t.writeGate = c.writeGate) (hs : t.sent = c.sent)
  | quiet (i : Nat) (call : SendCall) (phase : SendPhase) (hi : c.calls[i]? = some call)
      (hc : t.calls = c.calls.set i { call with phase }) (hw : call.writing = none)
      (hw' : { call with phase }.writing = none) (hg : t.writeGate = c.writeGate) (hs : t.sent = c.sent)
  | enters (i : Nat) (call : SendCall) (phase : SendPhase) (hi : c.calls[i]? = some call)
      (hc : t.calls = c.calls.set i { call with phase }) (hsized : call.sized)
      (hw' : { call with phase }.writing = some []) (hg : c.writeGate = t.writeGate + 1) (hs : t.sent = c.sent)
  | writes (i : Nat) (call : SendCall) (phase : SendPhase) (old new : List UInt8) (hi : c.calls[i]? = some call)
      (hc : t.calls = c.calls.set i { call with phase }) (hw : call.writing = some old)
      (hw' : { call with phase }.writing = some (old ++ new)) (hg : t.writeGate = c.writeGate)
      (hs : t.sent = c.sent ++ new)
  | leaves (i : Nat) (call : SendCall) (phase : SendPhase) (old : List UInt8) (hi : c.calls[i]? = some call)
      (hc : t.calls = c.calls.set i { call with phase }) (hw : call.writing = some old)
      (hw' : { call with phase }.writing = none) (hg : t.writeGate = c.writeGate + 1) (hs : t.sent = c.sent)
      (hold : l ≠ .cancel i ∨ call.midFrame = false → old = [] ∨ old = encode call.payload)

theorem step_moves {c t : HelperIpcClient} {l : SendLabel} (h : c.step l = some t) : c.Moves t l := by
  cases l with
  | send id payload =>
    rw [step] at h
    split at h
    · exact .same (Option.some.inj h).symm
    · cases h
      exact .added ⟨id, payload, .gate⟩ rfl rfl rfl rfl
  | acquire i =>
    simp only [step, Option.bind_eq_bind, Option.bind_eq_some_iff] at h
    obtain ⟨call, hi, h⟩ := h
    split at h
    · rename_i hg
      obtain ⟨hphase, hgate⟩ := hg
      split at h
      · rename_i hsized
        cases h
        exact .enters i call (.header 0) hi rfl hsized rfl (Nat.sub_add_cancel hgate).symm rfl
      · cases h
        exact .quiet i call .ended hi rfl (by simp [SendCall.writing, hphase]) rfl rfl rfl
    · cases h
  | write i n =>
    simp only [step, Option.bind_eq_bind, Option.bind_eq_some_iff] at h
    obtain ⟨call, hi, h⟩ := h
    split at h
    · rename_i k hphase
      split at h
      · cases h
        refine .writes i call (.header (k + n)) _ _ hi rfl (by simp [SendCall.writing, hphase]; rfl) ?_ rfl rfl
        simp only [SendCall.writing, List.take_add]
      · cases h
    · rename_i k hphase
      split at h
      · cases h
        refine .writes i call (.payload (k + n)) _ _ hi rfl (by simp [SendCall.writing, hphase]; rfl) ?_ rfl rfl
        simp only [SendCall.writing, List.take_add, List.append_assoc]
      · cases h
    · cases h
  | next i =>
    simp only [step, Option.bind_eq_bind, Option.bind_eq_some_iff] at h
    obtain ⟨call, hi, h⟩ := h
    split at h
    · rename_i hphase
      cases h
      refine .writes i call (.payload 0) (header call.payload.length) [] hi rfl ?_ ?_ rfl (by simp [setPhase])
      · simp only [SendCall.writing, hphase]; rfl
      · simp [SendCall.writing]
    · rename_i k hphase
      split at h
      · rename_i hk
        cases h
        refine .writes i call .flush (encode call.payload) [] hi rfl ?_ ?_ rfl (by simp [setPhase])
        · simp [SendCall.writing, hphase, hk, encode]
        · simp [SendCall.writing]
      · cases h
    · rename_i hphase
      cases h
      exact .leaves i call .response (encode call.payload) hi rfl (by simp [SendCall.writing, hphase]) rfl rfl rfl
        (fun _ => .inr rfl)
    · cases h
  | respond i =>
    simp only [step, Option.bind_eq_bind, Option.bind_eq_some_iff] at h
    obtain ⟨call, hi, h⟩ := h
    split at h
    · rename_i hphase
      cases h
      exact .quiet i call .ended hi rfl (by simp [SendCall.writing, hphase]) rfl rfl rfl
    · cases h
  | cancel i =>
    simp only [step, Option.bind_eq_bind, Option.bind_eq_some_iff] at h
    obtain ⟨call, hi, h⟩ := h
    split at h
    · rename_i hphase
      cases h
      exact .quiet i call .ended hi rfl (by simp [SendCall.writing, hphase]) rfl rfl rfl
    · rename_i hphase
      cases h
      exact .quiet i call .ended hi rfl (by simp [SendCall.writing, hphase]) rfl rfl rfl
    · rename_i n hphase
      cases h
      refine .leaves i call .ended _ hi rfl (by simp [SendCall.writing, hphase]; rfl) rfl rfl rfl ?_
      simp +contextual [SendCall.midFrame, hphase]
    · rename_i n hphase
      cases h
      refine .leaves i call .ended _ hi rfl (by simp [SendCall.writing, hphase]; rfl) rfl rfl rfl ?_
      simp only [SendCall.midFrame, hphase, decide_eq_false_iff_not, Nat.not_lt, ne_eq, not_true_eq_false, false_or]
      intro hn
      rw [List.take_of_length_le hn]
      exact .inr rfl
    · rename_i hphase
      cases h
      exact .leaves i call .ended (encode call.payload) hi rfl (by simp [SendCall.writing, hphase]) rfl rfl rfl
        (fun _ => .inr rfl)
    · cases h

/-- At most one call is inside `IpcFraming.WriteAsync`. -/
def OneWriter (c : HelperIpcClient) : Prop :=
  ∀ (i j : Nat) (a b : SendCall), c.calls[i]? = some a → c.calls[j]? = some b → a.writing ≠ none → b.writing ≠ none →
    i = j

def Whole (c : HelperIpcClient) (whole : List (List UInt8)) : Prop :=
  ∀ body ∈ whole, ∃ call ∈ c.calls, call.payload = body ∧ call.sized

/-- **The bytes that reached the Helper are whole frames followed by at most one frame still being written.** -/
def Framed (c : HelperIpcClient) : Prop :=
  c.OneWriter ∧ ∃ whole, c.Whole whole ∧
    (c.sent = encodeAll whole ∨
      ∃ call ∈ c.calls, ∃ bytes, call.writing = some bytes ∧ c.sent = encodeAll whole ++ bytes)

/-- The condition: a call is not cancelled inside its frame. -/
def KeepsFrame (c : HelperIpcClient) : SendLabel → Prop
  | .cancel i => ∀ call ∈ c.calls[i]?, call.midFrame = false
  | _ => True

instance (c : HelperIpcClient) : (l : SendLabel) → Decidable (c.KeepsFrame l)
  | .cancel i => inferInstanceAs (Decidable (∀ call ∈ c.calls[i]?, call.midFrame = false))
  | .send _ _ | .acquire _ | .write _ _ | .next _ | .respond _ => .isTrue trivial

def Free (c : HelperIpcClient) (whole : List (List UInt8)) : Prop :=
  c.writeGate = 1 ∧ (∀ (j : Nat) (b : SendCall), c.calls[j]? = some b → b.writing = none) ∧ c.sent = encodeAll whole

/-- Call `i` has the gate, and what it has written so far ends the bytes sent. -/
def Held (c : HelperIpcClient) (whole : List (List UInt8)) (i : Nat) (call : SendCall) (bytes : List UInt8) : Prop :=
  c.writeGate = 0 ∧ c.calls[i]? = some call ∧ call.sized ∧ call.writing = some bytes ∧
    c.sent = encodeAll whole ++ bytes ∧ ∀ (j : Nat) (b : SendCall), c.calls[j]? = some b → b.writing ≠ none → j = i

/-- The invariant behind `Framed`: the gate counts the writer. -/
def Gated (c : HelperIpcClient) : Prop :=
  ∃ whole, c.Whole whole ∧ (c.Free whole ∨ ∃ i call bytes, c.Held whole i call bytes)

theorem Gated.framed {c : HelperIpcClient} (h : c.Gated) : c.Framed := by
  obtain ⟨whole, hwhole, hfree | ⟨i, call, bytes, -, hi, -, hw, hsent, honly⟩⟩ := h
  · obtain ⟨-, hnone, hsent⟩ := hfree
    exact ⟨fun i j a b ha _ hwa _ => absurd (hnone i a ha) hwa, whole, hwhole, .inl hsent⟩
  · refine ⟨fun j k a b ha hb hwa hwb => ?_, whole, hwhole, .inr ⟨call, ?_, bytes, hw, hsent⟩⟩
    · rw [honly j a ha hwa, honly k b hb hwb]
    · exact List.mem_of_getElem? hi

theorem getElem?_set_cases {calls : List SendCall} {i j : Nat} {new b : SendCall} (h : (calls.set i new)[j]? = some b) :
    j = i ∧ b = new ∨ j ≠ i ∧ calls[j]? = some b := by
  by_cases hj : j = i
  · subst hj
    rw [List.getElem?_set_self'] at h
    cases hc : calls[j]? with
    | none => rw [hc] at h; cases h
    | some a => rw [hc] at h; exact .inl ⟨rfl, (Option.some.inj h).symm⟩
  · rw [List.getElem?_set_ne (Ne.symm hj)] at h
    exact .inr ⟨hj, h⟩

theorem getElem?_set_new {calls : List SendCall} {i : Nat} {call new : SendCall} (h : calls[i]? = some call) :
    (calls.set i new)[i]? = some new := by
  rw [List.getElem?_set_self', h]; rfl

theorem Whole.setPhase {c t : HelperIpcClient} {whole : List (List UInt8)} {i : Nat} {call : SendCall}
    {phase : SendPhase} (h : c.Whole whole) (hi : c.calls[i]? = some call)
    (hc : t.calls = c.calls.set i { call with phase }) : t.Whole whole := by
  intro body hbody
  obtain ⟨a, ha, hpay, hsized⟩ := h body hbody
  obtain ⟨j, hj⟩ := List.mem_iff_getElem?.1 ha
  by_cases hji : j = i
  · subst hji
    rw [hi] at hj
    cases hj
    exact ⟨{ call with phase }, hc ▸ List.mem_of_getElem? (getElem?_set_new hi), hpay, hsized⟩
  · refine ⟨a, hc ▸ List.mem_of_getElem? (i := j) ?_, hpay, hsized⟩
    rw [List.getElem?_set_ne (Ne.symm hji), hj]

theorem same_writers {c t : HelperIpcClient} {whole : List (List UInt8)} (hg : t.writeGate = c.writeGate)
    (hs : t.sent = c.sent)
    (hw : ∀ (j : Nat) (b : SendCall), b.writing ≠ none → (t.calls[j]? = some b ↔ c.calls[j]? = some b)) :
    (c.Free whole ∨ ∃ i call bytes, c.Held whole i call bytes) →
      t.Free whole ∨ ∃ i call bytes, t.Held whole i call bytes := by
  rintro (⟨hgate, hnone, hsent⟩ | ⟨i, a, bytes, hgate, hi, hsized, hwa, hsent, honly⟩)
  · refine .inl ⟨hg.trans hgate, fun j b hb => ?_, hs.trans hsent⟩
    by_contra hwb
    exact hwb (hnone j b ((hw j b hwb).1 hb))
  · refine .inr ⟨i, a, bytes, hg.trans hgate, (hw i a ?_).2 hi, hsized, hwa, hs.trans hsent, fun j b hb hwb => ?_⟩
    · rw [hwa]; exact Option.some_ne_none bytes
    · exact honly j b ((hw j b hwb).1 hb) hwb

/-- **One step keeps the frames whole.** -/
theorem step_gated (c : HelperIpcClient) (l : SendLabel) (t : HelperIpcClient) (hc : c.Gated) (hok : c.KeepsFrame l)
    (h : c.step l = some t) : t.Gated := by
  obtain ⟨whole, hwhole, hstate⟩ := hc
  cases step_moves h with
  | same heq => exact heq ▸ ⟨whole, hwhole, hstate⟩
  | added call hw hcalls hg hs =>
    refine ⟨whole, fun body hb => ?_, same_writers hg hs (fun j b hwb => ?_) hstate⟩
    · obtain ⟨a, ha, hrest⟩ := hwhole body hb
      exact ⟨a, by rw [hcalls]; exact List.mem_append_left _ ha, hrest⟩
    · rw [hcalls, List.getElem?_append]
      split
      · rfl
      · rename_i hj
        rw [List.getElem?_singleton, List.getElem?_eq_none (Nat.not_lt.1 hj)]
        split
        · refine ⟨fun hb => ?_, fun hb => by cases hb⟩
          cases hb
          exact absurd hw hwb
        · rfl
  | quiet i call phase hi hcalls hw hw' hg hs =>
    refine ⟨whole, hwhole.setPhase hi hcalls, same_writers hg hs (fun j b hwb => ?_) hstate⟩
    rw [hcalls]
    by_cases hj : j = i
    · subst hj
      rw [getElem?_set_new hi, hi]
      refine ⟨fun hb => ?_, fun hb => ?_⟩
      · cases hb; exact absurd hw' hwb
      · cases hb; exact absurd hw hwb
    · rw [List.getElem?_set_ne (Ne.symm hj)]
  | enters i call phase hi hcalls hsized hw' hg hs =>
    refine ⟨whole, hwhole.setPhase hi hcalls, .inr ⟨i, { call with phase }, [], ?_⟩⟩
    obtain ⟨hgate, hnone, hsent⟩ | ⟨k, a, bytes, hgate, -⟩ := hstate
    · refine ⟨by omega, hcalls ▸ getElem?_set_new hi, hsized, hw', by rw [hs, hsent, List.append_nil], ?_⟩
      intro j b hb hwb
      rw [hcalls] at hb
      obtain ⟨rfl, -⟩ | ⟨-, hb⟩ := getElem?_set_cases hb
      · rfl
      · exact absurd (hnone j b hb) hwb
    · omega
  | writes i call phase old new hi hcalls hw hw' hg hs =>
    refine ⟨whole, hwhole.setPhase hi hcalls, .inr ⟨i, { call with phase }, old ++ new, ?_⟩⟩
    obtain ⟨-, hnone, -⟩ | ⟨k, a, bytes, hgate, hk, hsized, hwa, hsent, honly⟩ := hstate
    · rw [hnone i call hi] at hw; cases hw
    · obtain rfl := honly i call hi (by rw [hw]; exact Option.some_ne_none old)
      obtain rfl := Option.some.inj (hi.symm.trans hk)
      obtain rfl := Option.some.inj (hw.symm.trans hwa)
      refine ⟨hg.trans hgate, hcalls ▸ getElem?_set_new hi, hsized, hw', by rw [hs, hsent, List.append_assoc], ?_⟩
      intro j b hb hwb
      rw [hcalls] at hb
      obtain ⟨rfl, -⟩ | ⟨-, hb⟩ := getElem?_set_cases hb
      · rfl
      · exact honly j b hb hwb
  | leaves i call phase old hi hcalls hw hw' hg hs hold =>
    obtain ⟨-, hnone, -⟩ | ⟨k, a, bytes, hgate, hk, hsized, hwa, hsent, honly⟩ := hstate
    · rw [hnone i call hi] at hw; cases hw
    · obtain rfl := honly i call hi (by rw [hw]; exact Option.some_ne_none old)
      obtain rfl := Option.some.inj (hi.symm.trans hk)
      obtain rfl := Option.some.inj (hw.symm.trans hwa)
      have hnone : ∀ (j : Nat) (b : SendCall), t.calls[j]? = some b → b.writing = none := by
        intro j b hb
        rw [hcalls] at hb
        obtain ⟨-, rfl⟩ | ⟨hne, hb⟩ := getElem?_set_cases hb
        · exact hw'
        · by_contra hwb
          exact hne (honly j b hb hwb)
      have hend : old = [] ∨ old = encode call.payload := by
        refine hold ?_
        by_cases hl : l = .cancel i
        · subst hl
          exact .inr (hok call hi)
        · exact .inl hl
      obtain rfl | rfl := hend
      · exact ⟨whole, hwhole.setPhase hi hcalls, .inl ⟨by omega, hnone, by rw [hs, hsent, List.append_nil]⟩⟩
      · refine ⟨whole ++ [call.payload], ?_, .inl ⟨by omega, hnone, ?_⟩⟩
        · intro body hbody
          obtain hbody | hbody := List.mem_append.1 hbody
          · exact hwhole.setPhase hi hcalls body hbody
          · rw [List.mem_singleton] at hbody
            subst hbody
            exact ⟨{ call with phase }, hcalls ▸ List.mem_of_getElem? (getElem?_set_new hi), rfl, hsized⟩
        · rw [hs, hsent, Frames.encodeAll_append, Frames.encodeAll_cons, Frames.encodeAll_nil, List.append_nil]

end HelperIpcClient

/-- **Whole frames, then at most one being written**, at every time of every run in which no call is cancelled inside
its frame. -/
theorem sent_are_whole_frames (labels : List SendLabel) (c : HelperIpcClient)
    (hkeep : Run.Along HelperIpcClient.step HelperIpcClient.KeepsFrame .init labels)
    (hrun : Run.run HelperIpcClient.step .init labels = some c) : c.Framed := by
  have hinit : HelperIpcClient.init.Gated :=
    ⟨[], by simp [HelperIpcClient.Whole], .inl ⟨rfl, by simp [HelperIpcClient.init], rfl⟩⟩
  exact (Run.invariant HelperIpcClient.Gated HelperIpcClient.step_gated hinit hkeep hrun).framed

/-! ## A cancelled write -/

/-- The request of a status poll and of a leave, as `IpcEnvelope.Create` serializes them. -/
def statusRequest : List UInt8 :=
  Frames.ascii "\x7b\"protocol\":1,\"id\":\"a1\",\"type\":\"room.status\",\"payload\":\x7b\x7d\x7d"

def leaveRequest : List UInt8 :=
  Frames.ascii "\x7b\"protocol\":1,\"id\":\"b2\",\"type\":\"room.leave\",\"payload\":\x7b\x7d\x7d"

/-- A status poll is cancelled while it waits for its response, and the leave behind it is halfway through its frame. -/
def pollThenLeave : List SendLabel :=
  [.send "a1" statusRequest, .send "b2" leaveRequest, .acquire 0, .write 0 4, .next 0, .write 0 58, .next 0, .next 0,
    .acquire 1, .cancel 0, .write 1 4, .next 1, .write 1 10]

theorem poll_then_leave_is_framed :
    ∃ c, Run.run HelperIpcClient.step .init pollThenLeave = some c ∧ c.Framed := by
  refine ⟨_, rfl, sent_are_whole_frames pollThenLeave _ ?_ rfl⟩
  decide

/-- The status poll is cancelled between its two writes, then the leave writes its whole frame. -/
def cancelBetweenWrites : List SendLabel :=
  [.send "a1" statusRequest, .send "b2" leaveRequest, .acquire 0, .write 0 4, .cancel 0,
    .acquire 1, .write 1 4, .next 1, .write 1 57, .next 1, .next 1]

/-- **A call cancelled between its two writes leaves its header in front of the next call's frame.** -/
theorem cancel_between_writes_is_not_framed :
    ∃ c, Run.run HelperIpcClient.step .init cancelBetweenWrites = some c ∧
      c.sent = header statusRequest.length ++ encode leaveRequest ∧ ¬ c.Framed := by
  obtain ⟨c, hc⟩ : ∃ c, Run.run HelperIpcClient.step .init cancelBetweenWrites = some c := ⟨_, rfl⟩
  have hall : ∀ c ∈ Run.run HelperIpcClient.step .init cancelBetweenWrites,
      c.sent = header statusRequest.length ++ encode leaveRequest ∧
        ∀ call ∈ c.calls, call.writing = none ∧ (encode call.payload).take 5 ≠ c.sent.take 5 := by decide
  obtain ⟨hbytes, hcalls⟩ := hall c hc
  refine ⟨c, hc, hbytes, ?_⟩
  rintro ⟨-, whole, hwhole, hsent | ⟨call, hcall, bytes, hw, -⟩⟩
  · cases whole with
    | nil => rw [hbytes] at hsent; cases hsent
    | cons body rest =>
      -- no call's frame starts with the header of one request and the first byte of the other's header
      obtain ⟨call, hcall, rfl, hsized⟩ := hwhole body List.mem_cons_self
      refine (hcalls call hcall).2 ?_
      simp only [SendCall.sized, Bool.and_eq_true, decide_eq_true_eq] at hsized
      rw [hsent, Frames.encodeAll_cons, List.take_append_of_le_length]
      rw [Frames.length_encode]
      exact Nat.add_le_add_left hsized.1 4
  · rw [(hcalls call hcall).1] at hw
    cases hw

end Terracotta
