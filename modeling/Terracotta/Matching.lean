import Terracotta.Duplex
/-!
# Responses and calls

`Matched` is what the calls and the reader of a `HelperIpcClient` keep to: an envelope is delivered to one call at most,
the call has its id, and it is no event.  The ids of the Helper's events are no GUIDs, so a push is never delivered, its
message type notwithstanding.
-/
namespace Terracotta

open Json (Value)

variable {ρ : Type}

/-! ## Ids -/

theorem hexDigit_ne_v : ∀ n < 16, Json.hexDigit n ≠ 'v' := by decide

theorem v_not_mem_guidText (guid : BitVec 128) : 'v' ∉ (guidText guid).toList := by
  rw [guidText, String.toList_ofList, List.mem_map]
  rintro ⟨i, -, hv⟩
  exact hexDigit_ne_v _ (Nat.mod_lt _ (by omega)) hv

/-- **The id of a push is no GUID.** -/
theorem writeEvent_id_ne (sequence : Nat) (event : RoomEvent) (guid : BitVec 128) :
    (writeEvent sequence event).id ≠ guidText guid := by
  intro h
  apply v_not_mem_guidText guid
  rw [← h]
  simp [writeEvent]

theorem checkResponse_ok {jsonMessage expected : String} {inbound envelope : Envelope}
    (h : checkResponse jsonMessage expected inbound = .ok envelope) : envelope = inbound := by
  unfold checkResponse at h
  split at h
  · cases h
  split at h
  · split at h <;> cases h
  split at h
  · cases h
  · exact (Except.ok.inj h).symm

theorem IpcCall.response_ok {call : IpcCall ρ} {jsonMessage : String} {inbound : Envelope} {r : ρ}
    (h : call.response jsonMessage inbound = .ok r) : call.read inbound.payload = some r := by
  unfold IpcCall.response at h
  cases hcheck : checkResponse jsonMessage call.expectedResponseType inbound with
  | error error => rw [hcheck] at h; cases h
  | ok envelope =>
    rw [hcheck, checkResponse_ok hcheck] at h
    simp only [bind, Except.bind] at h
    cases hread : call.read inbound.payload with
    | none => rw [hread] at h; cases h
    | some a =>
      rw [hread] at h
      exact congrArg some (Except.ok.inj h)

namespace DuplexClient

variable {c t : DuplexClient ρ}

/-- The reader has taken the entry of call `k` for envelope `n`, or has completed the call with it. -/
def Delivers (c : DuplexClient ρ) (n k : Nat) : Prop :=
  c.reader = .resolving n k ∨ ∃ call, c.calls[k]? = some call ∧ call.completion = .result n

structure Matched (c : DuplexClient ρ) : Prop where
  entry : ∀ id k, (id, k) ∈ c.pending → ∃ call : IpcCall ρ, c.calls[k]? = some call ∧ call.id = id
  guid : ∀ (i : Nat) (call : IpcCall ρ), c.calls[i]? = some call → ∃ guid, call.id = guidText guid
  own : ∀ n k, c.Delivers n k → ∃ (envelope : Envelope) (call : IpcCall ρ), c.inbound[n]? = some envelope ∧
    c.calls[k]? = some call ∧ envelope.id = call.id
  once : ∀ n i j, c.Delivers n i → c.Delivers n j → i = j
  apart : ∀ n k, c.Delivers n k → n ∉ c.events
  known : ∀ n ∈ c.events, n < c.inbound.length
  outcome : ∀ (i : Nat) (call : IpcCall ρ) (r : ρ), c.calls[i]? = some call → call.phase.outcome = some (.ok r) →
    ∃ envelope ∈ c.inbound, envelope.id = call.id ∧ call.read envelope.payload = some r

theorem matched_init : (init : DuplexClient ρ).Matched := by
  refine ⟨?_, ?_, ?_, ?_, ?_, ?_, ?_⟩ <;> simp [init, Delivers]

/-! ## One step -/

/-- A call stays where it is, under its id. -/
theorem Moves.kept (h : c.Moves t) {k : Nat} {old : IpcCall ρ} (hk : c.calls[k]? = some old) :
    ∃ call, t.calls[k]? = some call ∧ call.id = old.id := by
  cases h with
  | adds call guid hid hcompletion houtcome hcalls =>
    have hlt : k < c.calls.length := (List.getElem?_eq_some_iff.1 hk).1
    exact ⟨old, by rw [hcalls, List.getElem?_append_left hlt]; exact hk, rfl⟩
  | moves i call call' hi hcalls hid =>
    by_cases hik : i = k
    · subst hik
      obtain rfl : call = old := Option.some.inj (hi.symm.trans hk)
      exact ⟨call', by rw [hcalls, List.getElem?_set_self', hi]; rfl, hid⟩
    · exact ⟨old, by rw [hcalls, List.getElem?_set_ne hik]; exact hk, rfl⟩
  | idles hcalls => exact ⟨old, by rw [hcalls]; exact hk, rfl⟩
  | takes envelope k' hk' hcalls => exact ⟨old, by rw [hcalls]; exact hk, rfl⟩
  | enters envelope hcalls => exact ⟨old, by rw [hcalls]; exact hk, rfl⟩
  | resolves n k' call hresolving hk' hcalls =>
    by_cases hik : k' = k
    · subst hik
      obtain rfl : call = old := Option.some.inj (hk'.symm.trans hk)
      exact ⟨{ call with completion := call.completion.trySet (.result n) }, by rw [hcalls, List.getElem?_set_self', hk']; rfl, rfl⟩
    · exact ⟨old, by rw [hcalls, List.getElem?_set_ne hik]; exact hk, rfl⟩

/-- What the step has made of a call that was there before. -/
structure Carries (c : DuplexClient ρ) (k : Nat) (old call : IpcCall ρ) : Prop where
  hold : c.calls[k]? = some old
  id : call.id = old.id
  read : call.read = old.read
  completion : ∀ n, call.completion = .result n → c.Delivers n k
  outcome : ∀ r, call.phase.outcome = some (.ok r) → old.phase.outcome = some (.ok r) ∨
    ∃ n envelope jsonMessage, old.completion = .result n ∧ c.inbound[n]? = some envelope ∧
      old.response jsonMessage envelope = .ok r

theorem Carries.same {k : Nat} {call : IpcCall ρ} (hk : c.calls[k]? = some call) : c.Carries k call call :=
  ⟨hk, rfl, rfl, fun _ hn => .inr ⟨call, hk, hn⟩, fun _ hr => .inl hr⟩

/-- A call is new, or was there before. -/
theorem Moves.origin (h : c.Moves t) {k : Nat} {call : IpcCall ρ} (hk : t.calls[k]? = some call) :
    ((∃ guid, call.id = guidText guid) ∧ call.completion = .incomplete ∧ ∀ r, call.phase.outcome ≠ some (.ok r)) ∨
      ∃ old, c.Carries k old call := by
  cases h with
  | adds new guid hid hcompletion houtcome hcalls =>
    rw [hcalls, List.getElem?_append] at hk
    split at hk
    · exact .inr ⟨call, .same hk⟩
    · obtain rfl : new = call := by
        have := List.mem_of_getElem? hk
        exact (List.mem_singleton.1 this).symm
      exact .inl ⟨⟨guid, hid⟩, hcompletion, houtcome⟩
  | moves i old new hi hcalls hid hread hcompletion houtcome =>
    by_cases hik : i = k
    · subst hik
      rw [hcalls, List.getElem?_set_self', hi] at hk
      obtain rfl : new = call := Option.some.inj hk
      exact .inr ⟨old, hi, hid, hread, fun n hn => .inr ⟨old, hi, hcompletion.result hn⟩, houtcome⟩
    · rw [hcalls, List.getElem?_set_ne hik] at hk
      exact .inr ⟨call, .same hk⟩
  | idles hcalls => exact .inr ⟨call, .same (hcalls ▸ hk)⟩
  | takes envelope k' hk' hcalls => exact .inr ⟨call, .same (hcalls ▸ hk)⟩
  | enters envelope hcalls => exact .inr ⟨call, .same (hcalls ▸ hk)⟩
  | resolves n k' old hresolving hk' hcalls =>
    by_cases hik : k' = k
    · subst hik
      rw [hcalls, List.getElem?_set_self', hk'] at hk
      cases hk
      refine .inr ⟨old, hk', rfl, rfl, fun m hm => ?_, fun r hr => .inl hr⟩
      rcases Completion.trySet_result hm with hold | hnew
      · exact .inr ⟨old, hk', hold⟩
      · cases hnew
        exact .inl hresolving
    · rw [hcalls, List.getElem?_set_ne hik] at hk
      exact .inr ⟨call, .same hk⟩

theorem Moves.inbound_prefix (h : c.Moves t) : c.inbound <+: t.inbound := by
  cases h with
  | adds call guid hid hcompletion houtcome hcalls hpending hinbound => rw [hinbound]
  | moves i call call' hi hcalls hid hread hcompletion houtcome hpending hinbound => rw [hinbound]
  | idles hcalls hpending hinbound => rw [hinbound]
  | takes envelope k hk hcalls hpending hinbound => exact hinbound ▸ List.prefix_append _ _
  | enters envelope hcalls hpending hinbound => exact hinbound ▸ List.prefix_append _ _
  | resolves n k call hresolving hk hcalls hpending hinbound => rw [hinbound]

theorem Moves.inbound (h : c.Moves t) {n : Nat} {envelope : Envelope} (hn : c.inbound[n]? = some envelope) :
    t.inbound[n]? = some envelope := by
  obtain ⟨rest, hrest⟩ := h.inbound_prefix
  rw [← hrest, List.getElem?_append_left (List.getElem?_eq_some_iff.1 hn).1]
  exact hn

theorem Moves.entry (h : c.Moves t) {id : String} {k : Nat} (hk : (id, k) ∈ t.pending) :
    (id, k) ∈ c.pending ∨ ∃ call, t.calls[k]? = some call ∧ call.id = id := by
  cases h with
  | adds call guid hid hcompletion houtcome hcalls hpending =>
    rcases hpending with hpending | hpending
    · exact .inl (hpending ▸ hk)
    · rw [hpending, List.mem_append, List.mem_singleton] at hk
      refine hk.imp_right fun hnew => ?_
      cases hnew
      exact ⟨call, by rw [hcalls]; simp, rfl⟩
  | moves i call call' hi hcalls hid hread hcompletion houtcome hpending => exact .inl (hpending hk)
  | idles hcalls hpending => exact .inl (hpending hk)
  | takes envelope k' hk' hcalls hpending => exact .inl (hpending hk)
  | enters envelope hcalls hpending => exact .inl (hpending ▸ hk)
  | resolves n k' call hresolving hk' hcalls hpending => exact .inl (hpending ▸ hk)

/-- **A delivery was there before, or is the entry the reader has just taken** for the envelope it has just read. -/
theorem Moves.delivery (h : c.Moves t) {n k : Nat} (hd : t.Delivers n k) :
    c.Delivers n k ∨ n = c.inbound.length ∧ t.reader = .resolving n k ∧ t.events = c.events ∧
      ∃ envelope, t.inbound[n]? = some envelope ∧ (envelope.id, k) ∈ c.pending := by
  rcases hd with hreading | ⟨call, hk, hn⟩
  · cases h with
    | adds call guid hid hcompletion houtcome hcalls hpending hinbound hevents hreader =>
      exact .inl (.inl (hreader ▸ hreading))
    | moves i call call' hi hcalls hid hread hcompletion houtcome hpending hinbound hevents hreader =>
      exact .inl (.inl (hreader n k hreading))
    | idles hcalls hpending hinbound hevents hreader => exact .inl (.inl (hreader n k hreading))
    | takes envelope k' hk' hcalls hpending hinbound hevents hreader =>
      rw [hreader] at hreading
      cases hreading
      exact .inr ⟨rfl, hreader, hevents, envelope, by rw [hinbound]; simp, hk'⟩
    | enters envelope hcalls hpending hinbound hevents hreader => rw [hreader] at hreading; cases hreading
    | resolves n' k' call hresolving hk' hcalls hpending hinbound hevents hreader =>
      rw [hreader] at hreading
      cases hreading
  · rcases h.origin hk with ⟨-, hincomplete, -⟩ | ⟨old, hold⟩
    · rw [hincomplete] at hn
      cases hn
    · exact .inl (hold.completion n hn)

/-- An envelope enters the event channel when it is read, and is not delivered then. -/
theorem Moves.event (h : c.Moves t) {n : Nat} (hn : n ∈ t.events) :
    n ∈ c.events ∨ n = c.inbound.length ∧ n < t.inbound.length ∧ t.reader = .reading := by
  cases h with
  | adds call guid hid hcompletion houtcome hcalls hpending hinbound hevents => exact .inl (hevents ▸ hn)
  | moves i call call' hi hcalls hid hread hcompletion houtcome hpending hinbound hevents => exact .inl (hevents ▸ hn)
  | idles hcalls hpending hinbound hevents => exact .inl (hevents ▸ hn)
  | takes envelope k hk hcalls hpending hinbound hevents => exact .inl (hevents ▸ hn)
  | enters envelope hcalls hpending hinbound hevents hreader =>
    rw [hevents, List.mem_append, List.mem_singleton] at hn
    exact hn.imp_right fun hnew => ⟨hnew, by rw [hinbound, hnew]; simp, hreader⟩
  | resolves n' k call hresolving hk hcalls hpending hinbound hevents => exact .inl (hevents ▸ hn)

theorem Matched.delivered_lt (hm : c.Matched) {n k : Nat} (hd : c.Delivers n k) : n < c.inbound.length := by
  obtain ⟨envelope, call, hn, -⟩ := hm.own n k hd
  exact (List.getElem?_eq_some_iff.1 hn).1

theorem matched_step (hm : c.Matched) (h : c.Moves t) : t.Matched where
  entry id k hk := by
    rcases h.entry hk with hk | hnew
    · obtain ⟨old, hold, rfl⟩ := hm.entry id k hk
      exact h.kept hold
    · exact hnew
  guid i call hi := by
    rcases h.origin hi with ⟨hguid, -⟩ | ⟨old, hold⟩
    · exact hguid
    · rw [hold.id]
      exact hm.guid i old hold.hold
  own n k hd := by
    rcases h.delivery hd with hd | ⟨-, -, -, envelope, hn, hk⟩
    · obtain ⟨envelope, old, hn, hold, hid⟩ := hm.own n k hd
      obtain ⟨call, hcall, hcid⟩ := h.kept hold
      exact ⟨envelope, call, h.inbound hn, hcall, hid.trans hcid.symm⟩
    · obtain ⟨old, hold, hid⟩ := hm.entry _ k hk
      obtain ⟨call, hcall, hcid⟩ := h.kept hold
      exact ⟨envelope, call, hn, hcall, hid.symm.trans hcid.symm⟩
  once n i j hi hj := by
    rcases h.delivery hi with hi | ⟨hn, hreader, -⟩
    · rcases h.delivery hj with hj | ⟨hn, -⟩
      · exact hm.once n i j hi hj
      · have := hm.delivered_lt hi
        omega
    · rcases h.delivery hj with hj | ⟨-, hreader', -⟩
      · have := hm.delivered_lt hj
        omega
      · rw [hreader] at hreader'
        cases hreader'
        rfl
  apart n k hd hn := by
    rcases h.delivery hd with hold | ⟨hlen, hreader, hevents, -⟩
    · rcases h.event hn with hn | ⟨hlen, -⟩
      · exact hm.apart n k hold hn
      · have := hm.delivered_lt hold
        omega
    · rw [hevents] at hn
      have := hm.known n hn
      omega
  known n hn := by
    rcases h.event hn with hn | ⟨-, hlt, -⟩
    · exact Nat.lt_of_lt_of_le (hm.known n hn) h.inbound_prefix.length_le
    · exact hlt
  outcome i call r hi hr := by
    rcases h.origin hi with ⟨-, -, hnone⟩ | ⟨old, hold⟩
    · exact absurd hr (hnone r)
    · rw [hold.id, hold.read]
      rcases hold.outcome r hr with hr | ⟨n, envelope, jsonMessage, hn, henvelope, hresponse⟩
      · obtain ⟨envelope, hmem, hid, hread⟩ := hm.outcome i old r hold.hold hr
        exact ⟨envelope, h.inbound_prefix.subset hmem, hid, hread⟩
      · obtain ⟨envelope', old', hn', hold', hid⟩ := hm.own n i (.inr ⟨old, hold.hold, hn⟩)
        obtain rfl : envelope = envelope' := Option.some.inj (henvelope.symm.trans hn')
        obtain rfl : old = old' := Option.some.inj (hold.hold.symm.trans hold')
        exact ⟨envelope, h.inbound_prefix.subset (List.mem_of_getElem? henvelope), hid, IpcCall.response_ok hresponse⟩

theorem matched_run {labels : List (DuplexLabel ρ)} (hrun : Run.run step init labels = some c) : c.Matched :=
  Run.invariant_all Matched (fun _ _ _ hm ht => matched_step hm (step_moves ht)) matched_init hrun

/-- **A response reaches the call it answers**, in every run: what a call returns is the payload of an envelope with its
id, an envelope resolves one call at most and is no event then, and a push resolves none. -/
theorem responses_reach_their_calls {labels : List (DuplexLabel ρ)} (hrun : Run.run step init labels = some c) :
    (∀ (i : Nat) (call : IpcCall ρ) (r : ρ), c.calls[i]? = some call → call.phase = .ended (.ok r) →
      ∃ envelope ∈ c.inbound, envelope.id = call.id ∧ call.read envelope.payload = some r) ∧
    (∀ (n i j : Nat) (call call' : IpcCall ρ), c.calls[i]? = some call → c.calls[j]? = some call' →
      call.completion = .result n → call'.completion = .result n → i = j) ∧
    (∀ (n i : Nat) (call : IpcCall ρ), c.calls[i]? = some call → call.completion = .result n → n ∉ c.events) ∧
    ∀ (n i sequence : Nat) (call : IpcCall ρ) (event : RoomEvent), c.inbound[n]? = some (writeEvent sequence event) →
      c.calls[i]? = some call → call.completion ≠ .result n := by
  have hm : c.Matched := matched_run hrun
  refine ⟨fun i call r hi hphase => ?_, fun n i j call call' hi hj hn hn' => ?_, fun n i call hi hn => ?_,
    fun n i sequence call event hpush hi hn => ?_⟩
  · exact hm.outcome i call r hi (by rw [hphase]; rfl)
  · exact hm.once n i j (.inr ⟨call, hi, hn⟩) (.inr ⟨call', hj, hn'⟩)
  · exact hm.apart n i (.inr ⟨call, hi, hn⟩)
  · obtain ⟨envelope, call', henvelope, hcall, hid⟩ := hm.own n i (.inr ⟨call, hi, hn⟩)
    obtain rfl : writeEvent sequence event = envelope := Option.some.inj (hpush.symm.trans henvelope)
    obtain ⟨guid, hguid⟩ := hm.guid i call' hcall
    exact writeEvent_id_ne sequence event guid (hid.trans hguid)

/-- A push comes in between a request and its response, which has the push's type. -/
def pushThenResponse : List (DuplexLabel Value) :=
  let response := Envelope.response (guidText 1) "room.state-changed" RoomSnapshot.idle.toValue
  [.send 1 "room.state-changed" some, .sent 0, .receive (writeEvent 1 (.stateChanged RoomSnapshot.idle)),
    .receive response, .resolve, .resume 0 "", .finish 0]

theorem response_behind_push : ∃ c, Run.run step init pushThenResponse = some c ∧ c.events = [0] ∧
    c.calls.map (·.completion) = [.result 1] ∧
    ∀ (i : Nat) (call : IpcCall Value), c.calls[i]? = some call → call.completion = .result 1 → 1 ∉ c.events := by
  have hview : (Run.run step init pushThenResponse).map (fun c => (c.events, c.calls.map (·.completion))) =
      some ([0], [.result 1]) := by decide
  obtain ⟨c, hrun, hc⟩ := Option.map_eq_some_iff.1 hview
  exact ⟨c, hrun, congrArg Prod.fst hc, congrArg Prod.snd hc, (responses_reach_their_calls hrun).2.2.1 1⟩

end DuplexClient

end Terracotta
