import Terracotta.Gateway
/-!
# One identity, and what is left of it

Every Helper of a plugin is given one and the same key, and it is a key the storage holds; between calls nothing but the
storage holds it.  Both follow from where the arrays of a call come from (`Moves`): a piece of `GetOrCreateAsync` supplies
one, its bytes are sent, and the exits of `EnsureInitializedAsync` overwrite it.
-/
namespace Terracotta

def GatewayPhase.array : GatewayPhase → Option Nat
  | .writing _ array | .identifying _ array | .identified _ array => some array
  | _ => none

namespace HelperRoomGateway

variable {s t : HelperRoomGateway}

/-- The array the call has in use. -/
def array (s : HelperRoomGateway) : Option Nat := s.call.bind (fun call => call.2.array)

theorem array_of_call {request : RoomRequest} {phase : GatewayPhase} (h : s.call = some (request, phase)) :
    s.array = phase.array := by
  unfold array
  rw [h]
  rfl

/-- A call of the gateway's own methods that has no array in use. -/
def EmptyHanded (call : Option (RoomRequest × GatewayPhase)) : Prop :=
  ∀ request phase, call = some (request, phase) → phase.array = none ∧ request.initializes = false

theorem emptyHanded_none : EmptyHanded none := fun _ _ h => by cases h

theorem EmptyHanded.array (h : EmptyHanded s.call) : s.array = none := by
  unfold HelperRoomGateway.array
  cases hcall : s.call with
  | none => rfl
  | some call => exact (h call.1 call.2 hcall).1

/-- The pieces of `GetOrCreateAsync`, from where the call stands to where it goes on. -/
inductive Piece (s : HelperRoomGateway) (l : GatewayLabel) (request : RoomRequest) (client : Nat) :
    SecureIdentityStore × IdentityOutcome → Prop
  | entered (random : Vector UInt8 32) (hcall : s.call = some (request, .starting)) :
      Piece s l request client (s.store.getOrCreate random)
  | read (random : Vector UInt8 32) (read : SecretRead) (hcall : s.call = some (request, .reading client)) (piece)
      (hpiece : s.store.readReturned random read = some piece) : Piece s l request client piece
  | written (write : SecretWrite) (array : Nat) (hl : l = .written write)
      (hcall : s.call = some (request, .writing client array)) :
      Piece s l request client (s.store.writeReturned array write)

/-- **What a step can do to the key**: nothing, run a piece of `GetOrCreateAsync`, send the key, overwrite it, or begin
anew. -/
inductive Moves (s : HelperRoomGateway) (l : GatewayLabel) (t : HelperRoomGateway) : Prop
  | keeps (hstore : t.store = s.store)
      (hlog : t.log = s.log ∨ ∃ client request, s.call = some (request, .requesting client) ∧
        t.log = s.log ++ [.wrote client request])
      (hcall : t.call = s.call ∨ s.array = none ∧ EmptyHanded t.call) (hl : ∀ write, l ≠ .written write)
  | supplies (request : RoomRequest) (client : Nat) (piece) (hpiece : s.Piece l request client piece)
      (hstore : t.store = piece.1) (hlog : t.log = s.log) (hcall : t.call = (s.goOn request client piece).call)
  | sends (request : RoomRequest) (client array : Nat) (hcall : s.call = some (request, .identifying client array))
      (hstore : t.store = s.store) (hlog : t.log = s.log ++ [.wrote client (.initializeIdentity (s.store.bytes array))])
      (hphase : t.call = some (request, .identified client array)) (hl : ∀ write, l ≠ .written write)
  | zeroes (array : Nat) (harray : s.array = some array) (hstore : t.store = s.store.zeroMemory array)
      (hlog : t.log = s.log ∨ ∃ request client, l = .identityAnswered true ∧
        s.call = some (request, .identified client array) ∧ t.log = s.log ++ [.initialized client])
      (hcall : EmptyHanded t.call) (hl : ∀ write, l ≠ .written write)
  | reloads (hl : l = .reload) (hstore : t.store = ⟨s.store.storage, none, []⟩) (hlog : t.log = s.log)
      (hcall : t.call = none)

/-- A call's own request is none of the identity. -/
def Owns (s : HelperRoomGateway) : Prop := ∀ request phase, s.call = some (request, phase) → request.initializes = false

theorem goOn_call (s s' : HelperRoomGateway) (request : RoomRequest) (client : Nat) (piece) :
    (s.goOn request client piece).call = (s'.goOn request client piece).call := by
  obtain ⟨store, outcome⟩ := piece
  cases outcome <;> rfl

theorem step_moves (l : GatewayLabel) (hown : s.Owns) (hstep : step s l = some t) : s.Moves l t := by
  have hnext : ∀ {request : RoomRequest} {phase next : GatewayPhase}, s.call = some (request, phase) →
      next.array = none → EmptyHanded (some (request, next)) := by
    intro request phase next hcall hnext r p hr
    cases hr
    exact ⟨hnext, hown _ _ hcall⟩
  cases l with
  | call request =>
    simp only [step] at hstep
    split at hstep
    · rename_i hidle
      cases hstep
      refine .keeps rfl (.inl rfl) (.inr ⟨by unfold array; rw [hidle.1]; rfl, fun r p hr => ?_⟩) (by simp)
      cases hr
      exact ⟨rfl, hidle.2⟩
    · cases hstep
  | started random =>
    simp only [step] at hstep
    split at hstep
    · rename_i request hcall
      cases hstep
      unfold ensure
      split
      · exact .keeps rfl (.inl rfl) (.inr ⟨array_of_call hcall, hnext hcall rfl⟩) (by simp)
      · exact .supplies request _ _ (.entered random hcall) (by simp) (by simp) (goOn_call _ _ _ _ _)
    · cases hstep
  | startFails launched outcome =>
    simp only [step] at hstep
    split at hstep
    · rename_i request hcall hclient
      cases hstep
      exact .keeps rfl (.inl rfl) (.inr ⟨array_of_call hcall, emptyHanded_none⟩) (by simp)
    · cases hstep
  | read random read =>
    simp only [step] at hstep
    split at hstep
    · rename_i request client hcall
      obtain ⟨piece, hpiece, rfl⟩ := Option.map_eq_some_iff.1 hstep
      exact .supplies request client piece (.read random read hcall piece hpiece) (by simp) (by simp) rfl
    · cases hstep
  | written write =>
    simp only [step] at hstep
    split at hstep
    · rename_i request client array hcall
      cases hstep
      exact .supplies request client _ (.written write array rfl hcall) (by simp) (by simp) rfl
    · cases hstep
  | sendIdentity =>
    simp only [step] at hstep
    split at hstep
    · rename_i request client array hcall
      cases hstep
      exact .sends request client array hcall rfl rfl rfl (by simp)
    · cases hstep
  | identityAnswered initialized =>
    simp only [step] at hstep
    split at hstep
    · rename_i request client array hcall
      split at hstep <;> rename_i hinitialized <;> cases hstep
      · subst hinitialized
        exact .zeroes array (array_of_call hcall) rfl (.inr ⟨request, client, rfl, hcall, rfl⟩) (hnext hcall rfl) (by simp)
      · exact .zeroes array (array_of_call hcall) rfl (.inl rfl) emptyHanded_none (by simp)
    · cases hstep
  | sendRequest =>
    simp only [step] at hstep
    split at hstep
    · rename_i request client hcall
      cases hstep
      exact .keeps rfl (.inr ⟨client, request, hcall, rfl⟩) (.inr ⟨array_of_call hcall, hnext hcall rfl⟩) (by simp)
    · cases hstep
  | answered =>
    simp only [step] at hstep
    split at hstep
    · rename_i request client hcall
      split at hstep <;> cases hstep
      · exact .keeps rfl (.inl rfl) (.inr ⟨array_of_call hcall, hnext hcall rfl⟩) (by simp)
      · exact .keeps rfl (.inl rfl) (.inr ⟨array_of_call hcall, emptyHanded_none⟩) (by simp)
    · cases hstep
  | throws =>
    simp only [step] at hstep
    split at hstep <;> cases hstep <;> rename_i hcall
    · exact .keeps rfl (.inl rfl) (.inr ⟨array_of_call hcall, emptyHanded_none⟩) (by simp)
    · exact .keeps rfl (.inl rfl) (.inr ⟨array_of_call hcall, emptyHanded_none⟩) (by simp)
    · exact .keeps rfl (.inl rfl) (.inr ⟨array_of_call hcall, emptyHanded_none⟩) (by simp)
    · exact .zeroes _ (array_of_call hcall) rfl (.inl rfl) emptyHanded_none (by simp)
    · exact .zeroes _ (array_of_call hcall) rfl (.inl rfl) emptyHanded_none (by simp)
  | stop =>
    cases hstep
    exact .keeps rfl (.inl rfl) (.inl rfl) (by simp)
  | pumpStopped i =>
    cases i with
    | none =>
      simp only [step] at hstep
      split at hstep
      · rename_i request hcall
        cases hstep
        exact .keeps rfl (.inl rfl) (.inr ⟨array_of_call hcall, hnext hcall rfl⟩) (by simp)
      · cases hstep
    | some i =>
      simp only [step] at hstep
      split at hstep <;> cases hstep
      exact .keeps rfl (.inl rfl) (.inl rfl) (by simp)
  | managerStopped i outcome =>
    cases i with
    | none =>
      simp only [step] at hstep
      split at hstep
      · rename_i request hcall
        cases hstep
        exact .keeps rfl (.inl rfl) (.inr ⟨array_of_call hcall, emptyHanded_none⟩) (by simp)
      · cases hstep
    | some i =>
      simp only [step] at hstep
      split at hstep <;> cases hstep
      exact .keeps rfl (.inl rfl) (.inl rfl) (by simp)
  | processExit generation =>
    simp only [step] at hstep
    split at hstep <;> cases hstep
    exact .keeps rfl (.inl rfl) (.inl rfl) (by simp)
  | processEnded i now =>
    simp only [step] at hstep
    split at hstep <;> cases hstep
    exact .keeps rfl (.inl rfl) (.inl rfl) (by simp)
  | reload =>
    cases hstep
    exact .reloads rfl rfl rfl rfl

/-- The log only grows, and a Helper is taken at its word. -/
theorem step_log (l : GatewayLabel) (hown : s.Owns) (hstep : step s l = some t) : ∃ events, t.log = s.log ++ events ∧
    ∀ client, .initialized client ∈ events →
      l = .identityAnswered true ∧ ∃ request array, s.call = some (request, .identified client array) := by
  cases step_moves l hown hstep with
  | keeps hstore hlog hcall hl =>
    rcases hlog with hlog | ⟨client, request, -, hlog⟩
    · exact ⟨[], by simp [hlog], by simp⟩
    · exact ⟨_, hlog, by simp⟩
  | supplies request client piece hpiece hstore hlog hcall => exact ⟨[], by simp [hlog], by simp⟩
  | sends request client array hcall hstore hlog hphase hl => exact ⟨_, hlog, by simp⟩
  | zeroes array harray hstore hlog hcall hl =>
    rcases hlog with hlog | ⟨request, client, hl, hs, hlog⟩
    · exact ⟨[], by simp [hlog], by simp⟩
    · refine ⟨_, hlog, fun c hc => ?_⟩
      cases List.mem_singleton.1 hc
      exact ⟨hl, request, array, hs⟩
  | reloads hl hstore hlog hcall => exact ⟨[], by simp [hlog], by simp⟩

/-! ## The key that is sent -/

/-- **The call handles a key the store holds**, or one that goes into a storage found empty. -/
structure Handles (s : HelperRoomGateway) : Prop where
  own : s.Owns
  tidy : s.store.Tidy s.array
  writing : ∀ request client array, s.call = some (request, .writing client array) →
    s.store.storage = some none ∧ (s.store.bytes array).length = 32
  keyed : ∀ request client array, s.call = some (request, .identifying client array) →
    s.store.Holds (s.store.bytes array) ∧ (s.store.bytes array).length = 32

theorem init_handles (storage : Option (Option (List UInt8))) : (init storage).Handles where
  own request phase h := by cases h
  tidy := ⟨fun a ha => (by cases ha), fun a ha => (by cases ha)⟩
  writing request client array h := by cases h
  keyed request client array h := by cases h

theorem Piece.supplies {l : GatewayLabel} {request : RoomRequest} {client : Nat} {piece} (h : s.Handles)
    (hpiece : s.Piece l request client piece) : s.store.Supplies piece.1 piece.2 := by
  cases hpiece with
  | entered random hcall =>
    have htidy := h.tidy
    rw [array_of_call hcall] at htidy
    exact SecureIdentityStore.getOrCreate_supplies htidy random
  | read random read hcall piece hpiece =>
    have htidy := h.tidy
    rw [array_of_call hcall] at htidy
    exact SecureIdentityStore.readReturned_supplies htidy hpiece
  | written write array hl hcall =>
    have htidy := h.tidy
    rw [array_of_call hcall] at htidy
    obtain ⟨hstorage, hlen⟩ := h.writing _ _ _ hcall
    exact SecureIdentityStore.writeReturned_supplies htidy hstorage hlen write

theorem Piece.own {l : GatewayLabel} {request : RoomRequest} {client : Nat} {piece} (h : s.Owns)
    (hpiece : s.Piece l request client piece) : request.initializes = false := by
  cases hpiece with
  | entered random hcall => exact h _ _ hcall
  | read random read hcall piece hpiece => exact h _ _ hcall
  | written write array hl hcall => exact h _ _ hcall

/-- A call without an array, in a store whose temporary identity is in place. -/
theorem handles_of_emptyHanded (htidy : t.store.Tidy none) (hcall : EmptyHanded t.call) : t.Handles where
  own r p hr := (hcall r p hr).2
  tidy := by rw [hcall.array]; exact htidy
  writing r c a hr := by cases (hcall _ _ hr).1
  keyed r c a hr := by cases (hcall _ _ hr).1

theorem step_handles (l : GatewayLabel) (h : s.Handles) (hstep : step s l = some t) : t.Handles := by
  cases step_moves l h.own hstep with
  | keeps hstore hlog hcall hl =>
    rcases hcall with hcall | ⟨-, hempty⟩
    · have harray : t.array = s.array := by unfold array; rw [hcall]
      exact {
        own := fun r p hr => h.own r p (hcall ▸ hr)
        tidy := by rw [harray, hstore]; exact h.tidy
        writing := fun r c a hr => by rw [hstore]; exact h.writing r c a (hcall ▸ hr)
        keyed := fun r c a hr => by rw [hstore]; exact h.keyed r c a (hcall ▸ hr) }
    · exact handles_of_emptyHanded (hstore ▸ h.tidy.none) hempty
  | supplies request client piece hpiece hstore hlog hcall =>
    have hs := hpiece.supplies h
    have hown := hpiece.own h.own
    obtain ⟨store, outcome⟩ := piece
    cases outcome with
    | reading =>
      refine handles_of_emptyHanded (hstore ▸ hs.tidy) fun r p hr => ?_
      cases hr.symm.trans hcall
      exact ⟨rfl, hown⟩
    | threw e =>
      have htcall : t.call = none := hcall
      exact handles_of_emptyHanded (hstore ▸ hs.tidy) (htcall ▸ emptyHanded_none)
    | writing a =>
      have htcall : t.call = some (request, .writing client a) := hcall
      exact {
        own := fun r p hr => by cases htcall.symm.trans hr; exact hown
        tidy := by rw [array_of_call htcall, hstore]; exact hs.tidy
        writing := fun r c b hr => by
          cases htcall.symm.trans hr
          rw [hstore]
          exact hs.writing a rfl
        keyed := fun r c b hr => by cases htcall.symm.trans hr }
    | returned a =>
      have htcall : t.call = some (request, .identifying client a) := hcall
      exact {
        own := fun r p hr => by cases htcall.symm.trans hr; exact hown
        tidy := by rw [array_of_call htcall, hstore]; exact hs.tidy
        writing := fun r c b hr => by cases htcall.symm.trans hr
        keyed := fun r c b hr => by
          cases htcall.symm.trans hr
          rw [hstore]
          exact hs.returned a rfl }
  | sends request client array hcall hstore hlog hphase hl =>
    have htidy := h.tidy
    rw [array_of_call hcall] at htidy
    exact {
      own := fun r p hr => by cases hphase.symm.trans hr; exact h.own _ _ hcall
      tidy := by rw [array_of_call hphase, hstore]; exact htidy
      writing := fun r c b hr => by cases hphase.symm.trans hr
      keyed := fun r c b hr => by cases hphase.symm.trans hr }
  | zeroes array harray hstore hlog hcall hl =>
    have htidy := h.tidy
    rw [harray] at htidy
    exact handles_of_emptyHanded (hstore ▸ htidy.zeroMemory) hcall
  | reloads hl hstore hlog hcall =>
    refine handles_of_emptyHanded ?_ (hcall ▸ emptyHanded_none)
    rw [hstore]
    exact ⟨fun a ha => (by cases ha), fun a ha => (by cases ha)⟩

/-- Every key that was sent is the one the store holds. -/
def Sent (s : HelperRoomGateway) : Prop :=
  ∀ client key, .wrote client (.initializeIdentity key) ∈ s.log → s.store.Holds key ∧ key.length = 32

theorem Sent.keep (h : s.Sent) (hholds : ∀ key, s.store.Holds key → t.store.Holds key)
    (hlog : ∀ client key, .wrote client (.initializeIdentity key) ∈ t.log →
      .wrote client (.initializeIdentity key) ∈ s.log) : t.Sent :=
  fun client key hm => ⟨hholds key (h client key (hlog client key hm)).1, (h client key (hlog client key hm)).2⟩

/-- What an identity survives: a plugin without a secure storage is not loaded again. -/
def Survives (s : HelperRoomGateway) (l : GatewayLabel) : Prop := l = .reload → s.store.storage.isSome = true

instance (s : HelperRoomGateway) (l : GatewayLabel) : Decidable (s.Survives l) := inferInstanceAs (Decidable (_ → _))

theorem step_sent (l : GatewayLabel) (h : s.Handles) (hsent : s.Sent) (hl : s.Survives l) (hstep : step s l = some t) :
    t.Sent := by
  cases step_moves l h.own hstep with
  | keeps hstore hlog hcall _ =>
    refine hsent.keep (fun key hk => hstore ▸ hk) fun client key hm => ?_
    rcases hlog with hlog | ⟨c, request, hrequest, hlog⟩ <;> rw [hlog] at hm
    · exact hm
    · rcases List.mem_append.1 hm with hm | hm
      · exact hm
      · -- a call's own request
        cases List.mem_singleton.1 hm
        cases h.own _ _ hrequest
  | supplies request client piece hpiece hstore hlog hcall =>
    exact hsent.keep (fun key hk => hstore ▸ (hpiece.supplies h).holds key hk) fun c key hm => hlog ▸ hm
  | sends request client array hcall hstore hlog hphase _ =>
    intro c key hm
    rw [hlog] at hm
    rw [hstore]
    rcases List.mem_append.1 hm with hm | hm
    · exact hsent c key hm
    · cases List.mem_singleton.1 hm
      exact h.keyed request client array hcall
  | zeroes array harray hstore hlog hcall _ =>
    have htidy := h.tidy
    rw [harray] at htidy
    refine hsent.keep (fun key hk => hstore ▸ hk.zeroMemory (htidy.current array rfl).2) fun c key hm => ?_
    rcases hlog with hlog | ⟨_, client, -, -, hlog⟩ <;> rw [hlog] at hm
    · exact hm
    · rcases List.mem_append.1 hm with hm | hm
      · exact hm
      · cases List.mem_singleton.1 hm
  | reloads hreload hstore hlog hcall =>
    refine hsent.keep (fun key hk => ?_) fun c key hm => hlog ▸ hm
    obtain ⟨stored, hstorage⟩ := Option.isSome_iff_exists.1 (hl hreload)
    unfold SecureIdentityStore.Holds at hk ⊢
    rw [hstorage] at hk
    rw [hstore, hstorage]
    exact hk

/-- **One identity**: whatever the storage answers, however calls end and however often Helpers and plugin are started
again, every key the plugin sends is the same 32 bytes, and a storage there is holds them.  Without a storage that goes for
as long as the plugin is loaded. -/
theorem one_identity (storage : Option (Option (List UInt8))) (labels : List GatewayLabel) (s : HelperRoomGateway)
    (hlabels : Run.Along step Survives (init storage) labels) (h : Run.run step (init storage) labels = some s)
    (client client' : Nat) (key key' : List UInt8) (hkey : .wrote client (.initializeIdentity key) ∈ s.log)
    (hkey' : .wrote client' (.initializeIdentity key') ∈ s.log) :
    key = key' ∧ key.length = 32 ∧ ∀ stored, s.store.storage = some stored → stored = some key := by
  have hs : s.Handles ∧ s.Sent := by
    refine Run.invariant (fun s => Handles s ∧ Sent s) (fun s l t hi hl ht => ?_) ⟨init_handles storage, ?_⟩ hlabels h
    · exact ⟨step_handles l hi.1 ht, step_sent l hi.1 hi.2 hl ht⟩
    · intro c k hm
      cases hm
  obtain ⟨hholds, hlen⟩ := hs.2 client key hkey
  refine ⟨hholds.unique (hs.2 client' key' hkey').1, hlen, fun stored hstored => ?_⟩
  unfold SecureIdentityStore.Holds at hholds
  rw [hstored] at hholds
  exact hholds

/-- The identity of one plugin, and of the plugin that is loaded after it. -/
def loadedTwice : List GatewayLabel :=
  twoHelpers ++ [.reload, .call .status, .started sampleKey, .read sampleKey .success, .sendIdentity]

theorem loaded_twice_one_identity : ∃ s, Run.run step (init (some none)) loadedTwice = some s ∧
    s.store.storage = some (some sampleKey.toList) ∧ sampleKey.toList.length = 32 := by
  refine ⟨_, rfl, rfl, ?_⟩
  exact (one_identity (some none) loadedTwice _ (by decide) rfl 1 3 sampleKey.toList sampleKey.toList (by decide)
    (by decide)).2.1

/-! ## What is left of it -/

/-- No write of a key is cancelled, unless the key is all zeros. -/
def WritesThrough (s : HelperRoomGateway) (l : GatewayLabel) : Prop :=
  ∀ request client array kept, s.call = some (request, .writing client array) → l = .written (.canceled kept) →
    s.store.bytes array = SecureIdentityStore.zeros (s.store.bytes array)

/-- No array but the temporary identity's and the one in use holds anything. -/
def Clean (s : HelperRoomGateway) : Prop := s.store.Wiped s.array

theorem goOn_array (s : HelperRoomGateway) (request : RoomRequest) (client : Nat) (piece) :
    (s.goOn request client piece).array = piece.2.array := by
  obtain ⟨store, outcome⟩ := piece
  cases outcome <;> rfl

theorem step_clean_iff (s : HelperRoomGateway) (l : GatewayLabel) (h : s.Handles) (hclean : s.Clean) :
    WritesThrough s l ↔ ∀ t, step s l = some t → t.Clean := by
  have hother : (∀ write, l ≠ .written write) → s.WritesThrough l :=
    fun hno request client array kept _ hl => absurd hl (hno _)
  constructor
  · intro hthrough t ht
    cases step_moves l h.own ht with
    | keeps hstore hlog hcall hl =>
      unfold Clean
      rw [hstore]
      rcases hcall with hcall | ⟨harray, hempty⟩
      · have htarray : t.array = s.array := by unfold array; rw [hcall]
        exact htarray ▸ hclean
      · have htarray : t.array = s.array := by rw [hempty.array, harray]
        exact htarray ▸ hclean
    | supplies request client piece hpiece hstore hlog hcall =>
      have htarray : t.array = piece.2.array := by
        rw [← goOn_array s request client piece]
        unfold array
        rw [hcall]
      unfold Clean at hclean ⊢
      rw [htarray, hstore]
      cases hpiece with
      | entered random hs =>
        rw [array_of_call hs] at hclean
        exact SecureIdentityStore.getOrCreate_wiped hclean random
      | read random read hs piece hpiece =>
        rw [array_of_call hs] at hclean
        exact SecureIdentityStore.readReturned_wiped hclean hpiece
      | written write array hl hs =>
        have htidy := h.tidy
        rw [array_of_call hs] at hclean htidy
        exact (SecureIdentityStore.writeReturned_wiped_iff hclean htidy write).2
          fun kept hw => hthrough request client array kept hs (hw ▸ hl)
    | sends request client array hcall hstore hlog hphase hl =>
      unfold Clean at hclean ⊢
      rw [array_of_call hcall] at hclean
      rw [array_of_call hphase, hstore]
      exact hclean
    | zeroes array harray hstore hlog hcall hl =>
      unfold Clean at hclean ⊢
      rw [harray] at hclean
      rw [hcall.array, hstore]
      exact hclean.zeroMemory
    | reloads hl hstore hlog hcall =>
      unfold Clean
      rw [hstore]
      intro i value hi
      simp at hi
  · intro hall request client array kept hcall hl
    have htidy := h.tidy
    unfold Clean at hclean
    rw [array_of_call hcall] at hclean htidy
    refine (SecureIdentityStore.writeReturned_wiped_iff hclean htidy (.canceled kept)).1 ?_ kept rfl
    have ht : step s l = some (s.goOn request client (s.store.writeReturned array (.canceled kept))) := by
      rw [hl]
      simp only [step, hcall]
    have hwiped := hall _ ht
    unfold Clean at hwiped
    rwa [goOn_array, goOn_store] at hwiped

/-- **No key stays in memory exactly if no write of one is cancelled**: outside the temporary identity and the array a
call has in use, every array the plugin made for a key is zero in every state of a run, whichever way its calls end. -/
theorem keys_are_wiped_iff (storage : Option (Option (List UInt8))) (labels : List GatewayLabel) :
    Run.Always step Clean (init storage) labels ↔ Run.Along step WritesThrough (init storage) labels := by
  refine Run.always_iff_along_of Handles Clean (fun s l t hw ht => step_handles l hw ht) step_clean_iff labels
    (init_handles storage) ?_
  intro i value hi
  simp [init] at hi

end HelperRoomGateway

end Terracotta
