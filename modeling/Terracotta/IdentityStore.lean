import Terracotta.IdentityKey
/-!
# `SecureIdentityStore`

The identity is 32 random bytes that the host's secure storage keeps; a host without one gets an identity that lasts as
long as the plugin does.  The arrays the bytes are held in are part of the state, each under its number: who gets one
from `GetOrCreateAsync` overwrites it with zeros when it is done, so that an array handed out twice would be an identity
lost.
-/
namespace Terracotta

/-- What `IPluginSecureStorage.ReadAsync` comes to; a value comes with the status `Success` only. -/
inductive SecretRead
  | success
  | notFound
  | failed
  | throws
  | canceled
deriving DecidableEq

/-- What `WriteAsync` comes to.  One that does not succeed may have stored the value (`kept`). -/
inductive SecretWrite
  | success
  | failed (kept : Bool)
  | throws (kept : Bool)
  | canceled (kept : Bool)
deriving DecidableEq

structure SecureIdentityStore where
  /-- What is stored under `identity.private-key`, in a host that has a secure storage. -/
  storage : Option (Option (List UInt8))
  temporaryIdentity : Option Nat
  arrays : List (List UInt8)
deriving DecidableEq

/-- Where `GetOrCreateAsync` goes on: at one of its awaits, at its caller with an array, or out by an exception. -/
inductive IdentityOutcome
  | reading
  | writing (array : Nat)
  | returned (array : Nat)
  | threw (e : Exn)
deriving DecidableEq

/-- The array the caller, or `WriteAsync`, has in use. -/
def IdentityOutcome.array : IdentityOutcome → Option Nat
  | .writing array | .returned array => some array
  | .reading | .threw _ => none

namespace SecureIdentityStore

def bytes (s : SecureIdentityStore) (array : Nat) : List UInt8 := s.arrays.getD array []

def make (s : SecureIdentityStore) (bytes : List UInt8) : SecureIdentityStore := { s with arrays := s.arrays ++ [bytes] }

def zeros (bytes : List UInt8) : List UInt8 := List.replicate bytes.length 0

/-- `CryptographicOperations.ZeroMemory`. -/
def zeroMemory (s : SecureIdentityStore) (array : Nat) : SecureIdentityStore :=
  { s with arrays := s.arrays.modify array zeros }

/-- The storage takes a copy of what it is given. -/
def keep (s : SecureIdentityStore) (array : Nat) : SecureIdentityStore :=
  { s with storage := s.storage.map (fun _ => some (s.bytes array)) }

def keepIf (kept : Bool) (s : SecureIdentityStore) (array : Nat) : SecureIdentityStore :=
  if kept then s.keep array else s

/-- `GetOrCreateAsync` up to its first await. -/
def getOrCreate (s : SecureIdentityStore) (random : Vector UInt8 32) : SecureIdentityStore × IdentityOutcome :=
  match s.storage, s.temporaryIdentity with
  | some _, _ => (s, .reading)
  | none, some array => (s.make (s.bytes array), .returned s.arrays.length)
  | none, none =>
    let s := { s.make random.toList with temporaryIdentity := some s.arrays.length }
    (s.make random.toList, .returned s.arrays.length)

/-- After `ReadAsync`; the value it returns is an array of its own. -/
def readReturned (s : SecureIdentityStore) (random : Vector UInt8 32) (read : SecretRead) :
    Option (SecureIdentityStore × IdentityOutcome) :=
  match read, s.storage with
  | .success, some (some value) =>
    if value.length = 32 then some (s.make value, .returned s.arrays.length)
    else some ((s.make value).zeroMemory s.arrays.length, .threw (.secureIdentity "安全存储中的陶瓦身份数据已损坏。"))
  | .notFound, some none => some (s.make random.toList, .writing s.arrays.length)
  | .failed, some _ | .throws, some _ => some (s, .threw (.secureIdentity "无法读取陶瓦安全身份。"))
  | .canceled, some _ => some (s, .threw .canceled)
  | _, _ => none

/-- After `WriteAsync`.  Neither handler runs on a cancellation, and the array is left as it is. -/
def writeReturned (s : SecureIdentityStore) (array : Nat) : SecretWrite → SecureIdentityStore × IdentityOutcome
  | .success => (s.keep array, .returned array)
  | .failed kept | .throws kept =>
    ((s.keepIf kept array).zeroMemory array, .threw (.secureIdentity "无法将陶瓦身份写入安全存储。"))
  | .canceled kept => (s.keepIf kept array, .threw .canceled)

variable {s t : SecureIdentityStore} {array : Nat}

@[simp] theorem keep_arrays : (s.keep array).arrays = s.arrays := rfl
@[simp] theorem keep_temporaryIdentity : (s.keep array).temporaryIdentity = s.temporaryIdentity := rfl
@[simp] theorem keepIf_arrays {kept : Bool} : (s.keepIf kept array).arrays = s.arrays := by cases kept <;> rfl
@[simp] theorem keepIf_temporaryIdentity {kept : Bool} : (s.keepIf kept array).temporaryIdentity = s.temporaryIdentity := by
  cases kept <;> rfl
@[simp] theorem length_zeroMemory : (s.zeroMemory array).arrays.length = s.arrays.length := List.length_modify ..
@[simp] theorem zeroMemory_storage : (s.zeroMemory array).storage = s.storage := rfl
@[simp] theorem zeroMemory_temporaryIdentity : (s.zeroMemory array).temporaryIdentity = s.temporaryIdentity := rfl
@[simp] theorem make_storage {value : List UInt8} : (s.make value).storage = s.storage := rfl
@[simp] theorem make_temporaryIdentity {value : List UInt8} : (s.make value).temporaryIdentity = s.temporaryIdentity := rfl

theorem bytes_make_last (value : List UInt8) : (s.make value).bytes s.arrays.length = value := by
  simp [bytes, make, List.getD_eq_getElem?_getD]

theorem bytes_make {i : Nat} (value : List UInt8) (h : i < s.arrays.length) : (s.make value).bytes i = s.bytes i := by
  simp [bytes, make, List.getD_eq_getElem?_getD, List.getElem?_append_left h]

theorem bytes_zeroMemory {i : Nat} (h : array ≠ i) : (s.zeroMemory array).bytes i = s.bytes i := by
  simp [bytes, zeroMemory, List.getD_eq_getElem?_getD, List.getElem?_modify_ne zeros s.arrays h]

/-! ## Which key is handed out -/

/-- The key the store goes on handing out. -/
def Holds (s : SecureIdentityStore) (key : List UInt8) : Prop :=
  match s.storage with
  | some stored => stored = some key
  | none => ∃ array, s.temporaryIdentity = some array ∧ s.bytes array = key

theorem Holds.unique {key key' : List UInt8} (h : s.Holds key) (h' : s.Holds key') : key = key' := by
  unfold Holds at h h'
  split at h
  · rename_i hstorage
    rw [hstorage] at h'
    exact Option.some.inj (h.symm.trans h')
  · rename_i hstorage
    rw [hstorage] at h'
    obtain ⟨a, ha, hbytes⟩ := h
    obtain ⟨a', ha', hbytes'⟩ := h'
    cases ha.symm.trans ha'
    exact hbytes.symm.trans hbytes'

/-- The arrays of a store and of the call that has `current` in use: the temporary identity is there and is not in use. -/
structure Tidy (s : SecureIdentityStore) (current : Option Nat) : Prop where
  temporary : ∀ a, s.temporaryIdentity = some a → a < s.arrays.length ∧ (s.bytes a).length = 32
  current : ∀ a, current = some a → a < s.arrays.length ∧ s.temporaryIdentity ≠ some a

theorem Tidy.make (h : s.Tidy none) (value : List UInt8) : (s.make value).Tidy (some s.arrays.length) where
  temporary a ha := by
    obtain ⟨hlt, hlen⟩ := h.temporary a ha
    refine ⟨?_, by rw [bytes_make value hlt]; exact hlen⟩
    simp only [SecureIdentityStore.make, List.length_append, List.length_singleton]
    omega
  current a ha := by
    cases ha
    refine ⟨by simp [SecureIdentityStore.make], fun ht => ?_⟩
    have hlt := (h.temporary _ ht).1
    omega

theorem Tidy.zeroMemory (h : s.Tidy (some array)) : (s.zeroMemory array).Tidy none where
  temporary a ha := by
    obtain ⟨hlt, hlen⟩ := h.temporary a ha
    have hne : array ≠ a := fun heq => (h.current array rfl).2 (heq ▸ ha)
    rw [bytes_zeroMemory hne, length_zeroMemory]
    exact ⟨hlt, hlen⟩
  current a ha := by cases ha

theorem Tidy.none {current : Option Nat} (h : s.Tidy current) : s.Tidy none := ⟨h.temporary, fun a ha => by cases ha⟩

theorem Holds.make {key : List UInt8} (hk : s.Holds key) {current : Option Nat} (h : s.Tidy current)
    (value : List UInt8) : (s.make value).Holds key := by
  unfold Holds at hk ⊢
  rw [make_storage]
  split at hk
  · exact hk
  · obtain ⟨a, ha, hbytes⟩ := hk
    exact ⟨a, ha, by rw [bytes_make value (h.temporary a ha).1]; exact hbytes⟩

theorem Holds.zeroMemory {key : List UInt8} (hk : s.Holds key) (h : s.temporaryIdentity ≠ some array) :
    (s.zeroMemory array).Holds key := by
  unfold Holds at hk ⊢
  rw [zeroMemory_storage]
  split at hk
  · exact hk
  · obtain ⟨a, ha, hbytes⟩ := hk
    have hne : array ≠ a := fun heq => h (heq ▸ ha)
    exact ⟨a, ha, by rw [bytes_zeroMemory hne]; exact hbytes⟩

/-- **What a piece of `GetOrCreateAsync` leads to**: a key that is handed out is held, and one that is held stays. -/
structure Supplies (s t : SecureIdentityStore) (outcome : IdentityOutcome) : Prop where
  tidy : t.Tidy outcome.array
  holds : ∀ key, s.Holds key → t.Holds key
  returned : ∀ a, outcome = .returned a → t.Holds (t.bytes a) ∧ (t.bytes a).length = 32
  writing : ∀ a, outcome = .writing a → t.storage = some none ∧ (t.bytes a).length = 32

theorem getOrCreate_supplies (h : s.Tidy none) (random : Vector UInt8 32) :
    s.Supplies (s.getOrCreate random).1 (s.getOrCreate random).2 := by
  unfold getOrCreate
  split
  · exact ⟨h, fun _ hk => hk, fun a ha => (by cases ha), fun a ha => (by cases ha)⟩
  · -- a copy of the temporary identity
    rename_i array hstorage htemporary
    have hlast := bytes_make_last (s := s) (s.bytes array)
    obtain ⟨hlt, hlen⟩ := h.temporary array htemporary
    refine ⟨h.make _, fun key hk => hk.make h _, fun a ha => ?_, fun a ha => (by cases ha)⟩
    cases ha
    rw [hlast]
    refine ⟨?_, hlen⟩
    unfold Holds
    rw [make_storage, hstorage]
    exact ⟨array, htemporary, bytes_make _ hlt⟩
  · -- the temporary identity is made now, and copied
    rename_i hstorage htemporary
    let s' : SecureIdentityStore := { s.make random.toList with temporaryIdentity := some s.arrays.length }
    have hbytes : s'.bytes s.arrays.length = random.toList := bytes_make_last (s := s) _
    have hlength : s'.arrays.length = s.arrays.length + 1 := by simp [s', SecureIdentityStore.make]
    have htidy : s'.Tidy none := by
      refine ⟨fun a ha => ?_, fun a ha => (by cases ha)⟩
      cases ha
      rw [hbytes, hlength, Vector.length_toList]
      exact ⟨by omega, rfl⟩
    have hheld : s'.Holds random.toList := by
      unfold Holds
      have hs' : s'.storage = .none := hstorage
      rw [hs']
      exact ⟨_, rfl, hbytes⟩
    refine ⟨htidy.make random.toList, fun key hk => ?_, fun a ha => ?_, fun a ha => (by cases ha)⟩
    · unfold Holds at hk
      rw [hstorage] at hk
      obtain ⟨a, ha, -⟩ := hk
      cases htemporary.symm.trans ha
    · cases ha
      show (s'.make random.toList).Holds ((s'.make random.toList).bytes s'.arrays.length) ∧ _
      rw [bytes_make_last, Vector.length_toList]
      exact ⟨hheld.make htidy _, rfl⟩

theorem readReturned_supplies (h : s.Tidy none) {random : Vector UInt8 32} {read : SecretRead} {outcome : IdentityOutcome}
    (hread : s.readReturned random read = some (t, outcome)) : s.Supplies t outcome := by
  unfold readReturned at hread
  split at hread
  · rename_i value hstorage
    split at hread
    · rename_i hlen
      cases hread
      refine ⟨h.make value, fun key hk => hk.make h value, fun a ha => ?_, fun a ha => (by cases ha)⟩
      cases ha
      rw [bytes_make_last]
      refine ⟨?_, hlen⟩
      unfold Holds
      rw [make_storage, hstorage]
    · cases hread
      refine ⟨(h.make value).zeroMemory, fun key hk => ?_, fun a ha => (by cases ha), fun a ha => (by cases ha)⟩
      exact (hk.make h value).zeroMemory ((h.make value).current _ rfl).2
  · rename_i hstorage
    cases hread
    refine ⟨h.make _, fun key hk => hk.make h _, fun a ha => (by cases ha), fun a ha => ?_⟩
    cases ha
    rw [bytes_make_last, Vector.length_toList]
    exact ⟨hstorage, rfl⟩
  · cases hread
    exact ⟨h, fun _ hk => hk, fun a ha => (by cases ha), fun a ha => (by cases ha)⟩
  · cases hread
    exact ⟨h, fun _ hk => hk, fun a ha => (by cases ha), fun a ha => (by cases ha)⟩
  · cases hread
    exact ⟨h, fun _ hk => hk, fun a ha => (by cases ha), fun a ha => (by cases ha)⟩
  · cases hread

/-- The storage is written to only where it was found empty. -/
theorem writeReturned_supplies (h : s.Tidy (some array)) (hstorage : s.storage = some none)
    (hlen : (s.bytes array).length = 32) (write : SecretWrite) :
    s.Supplies (s.writeReturned array write).1 (s.writeReturned array write).2 := by
  have hno : ∀ key, ¬ s.Holds key := by
    intro key hk
    unfold Holds at hk
    rw [hstorage] at hk
    cases hk
  have hkeepIf : ∀ kept, (s.keepIf kept array).Tidy (some array) := by
    intro kept
    cases kept
    · exact h
    · exact ⟨h.temporary, h.current⟩
  cases write with
  | success =>
    refine ⟨⟨h.temporary, h.current⟩, fun key hk => absurd hk (hno key), fun a ha => ?_, fun a ha => (by cases ha)⟩
    cases ha
    refine ⟨?_, hlen⟩
    unfold Holds writeReturned keep
    rw [hstorage]
    rfl
  | failed kept | throws kept =>
    exact ⟨(hkeepIf kept).zeroMemory, fun key hk => absurd hk (hno key), fun a ha => (by cases ha), fun a ha => (by cases ha)⟩
  | canceled kept =>
    exact ⟨(hkeepIf kept).none, fun key hk => absurd hk (hno key), fun a ha => (by cases ha), fun a ha => (by cases ha)⟩

/-! ## What is left in memory -/

/-- No array holds anything but zeros, the temporary identity's own and the one in use apart. -/
def Wiped (s : SecureIdentityStore) (current : Option Nat) : Prop :=
  ∀ i value, s.arrays[i]? = some value → value = zeros value ∨ s.temporaryIdentity = some i ∨ current = some i

theorem Wiped.make (h : s.Wiped none) (value : List UInt8) : (s.make value).Wiped (some s.arrays.length) := by
  intro i x hx
  rcases Nat.lt_or_ge i s.arrays.length with hlt | hge
  · have hold : s.arrays[i]? = some x := by
      simpa [SecureIdentityStore.make, List.getElem?_append_left hlt] using hx
    exact (h i x hold).imp_right fun hor => .inl (hor.resolve_right (by simp))
  · have hlast : i < (s.arrays ++ [value]).length := (List.getElem?_eq_some_iff.1 hx).1
    rw [List.length_append, List.length_singleton] at hlast
    have hi : i = s.arrays.length := by omega
    exact .inr (.inr (by rw [hi]))

theorem zeros_zeros (value : List UInt8) : zeros (zeros value) = zeros value := by simp [zeros]

/-- Zeroing the array in use leaves nothing. -/
theorem Wiped.zeroMemory (h : s.Wiped (some array)) : (s.zeroMemory array).Wiped none := by
  intro i x hx
  by_cases hne : array = i
  · subst hne
    simp only [SecureIdentityStore.zeroMemory, List.getElem?_modify_eq] at hx
    obtain ⟨y, -, rfl⟩ := Option.map_eq_some_iff.1 hx
    exact .inl (zeros_zeros y).symm
  · simp only [SecureIdentityStore.zeroMemory, List.getElem?_modify_ne zeros s.arrays hne] at hx
    exact (h i x hx).imp_right fun hor => .inl (hor.resolve_right fun heq => hne (Option.some.inj heq))

/-- Dropping the array in use leaves nothing exactly if there are only zeros in it. -/
theorem wiped_drop_iff (h : s.Wiped (some array)) (htidy : s.Tidy (some array)) :
    s.Wiped none ↔ s.bytes array = zeros (s.bytes array) := by
  obtain ⟨hlt, htemporary⟩ := htidy.current array rfl
  have hget : s.arrays[array]? = some (s.bytes array) := by
    simp [bytes, List.getD_eq_getElem?_getD, List.getElem?_eq_getElem hlt]
  constructor
  · intro hwiped
    rcases hwiped array _ hget with hzero | htemp | hno
    · exact hzero
    · exact absurd htemp htemporary
    · cases hno
  · intro hzero i x hx
    rcases h i x hx with hx0 | htemp | hcurrent
    · exact .inl hx0
    · exact .inr (.inl htemp)
    · cases hcurrent
      cases hget.symm.trans hx
      exact .inl hzero

theorem getOrCreate_wiped (h : s.Wiped none) (random : Vector UInt8 32) :
    (s.getOrCreate random).1.Wiped (s.getOrCreate random).2.array := by
  unfold getOrCreate
  split
  · exact h
  · exact h.make _
  · rename_i hstorage htemporary
    let s' : SecureIdentityStore := { s.make random.toList with temporaryIdentity := some s.arrays.length }
    have hwiped : s'.Wiped none := by
      intro i x hx
      rcases h.make random.toList i x hx with hzero | htemp | hlast
      · exact .inl hzero
      · cases htemporary.symm.trans htemp
      · exact .inr (.inl hlast)
    exact hwiped.make random.toList

theorem readReturned_wiped (h : s.Wiped none) {random : Vector UInt8 32} {read : SecretRead} {outcome : IdentityOutcome}
    (hread : s.readReturned random read = some (t, outcome)) : t.Wiped outcome.array := by
  unfold readReturned at hread
  split at hread
  · split at hread <;> cases hread
    · exact h.make _
    · exact (h.make _).zeroMemory
  · cases hread
    exact h.make _
  all_goals
    cases hread
    try exact h

/-- **The one exit that keeps the key in memory** is a write that is cancelled. -/
theorem writeReturned_wiped_iff (h : s.Wiped (some array)) (htidy : s.Tidy (some array)) (write : SecretWrite) :
    (s.writeReturned array write).1.Wiped (s.writeReturned array write).2.array ↔
      ∀ kept, write = .canceled kept → s.bytes array = zeros (s.bytes array) := by
  have hkeepIf : ∀ kept, (s.keepIf kept array).Wiped (some array) ∧ (s.keepIf kept array).Tidy (some array) ∧
      (s.keepIf kept array).bytes array = s.bytes array := by
    intro kept
    cases kept
    · exact ⟨h, htidy, rfl⟩
    · exact ⟨h, ⟨htidy.temporary, htidy.current⟩, rfl⟩
  cases write with
  | success => exact ⟨fun _ kept hw => (by cases hw), fun _ => h⟩
  | failed kept | throws kept => exact ⟨fun _ kept hw => (by cases hw), fun _ => (hkeepIf kept).1.zeroMemory⟩
  | canceled kept =>
    obtain ⟨hwiped, hkept, hbytes⟩ := hkeepIf kept
    show (s.keepIf kept array).Wiped none ↔ _
    rw [wiped_drop_iff hwiped hkept, hbytes]
    exact ⟨fun hzero _ _ => hzero, fun hzero => hzero kept rfl⟩

end SecureIdentityStore

end Terracotta
