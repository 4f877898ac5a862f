import Mathlib.Data.List.Nodup
import Mathlib.Logic.Function.Basic
/-!
# Tables whose entries expire

A table keeps when each key was last seen.  Seeing a key replaces its entry, and a sweep drops what has not been seen
for a span of time, except for one key that stays.  `Tracks` says what such a table holds of all that was ever seen;
behind a sweep it holds the key that stays and the keys seen within the span, and nothing else.  `Recalls` says it of the
values too: an entry is the latest one of its key.
-/
namespace Expiry

variable {κ ν : Type}

def keys (table : List (κ × ν)) : List κ := table.map Prod.fst

/-- `HashMap::insert`, on the list of entries. -/
def insert [DecidableEq κ] (table : List (κ × ν)) (key : κ) (value : ν) : List (κ × ν) :=
  (key, value) :: table.filter (fun e => e.1 ≠ key)

/-- `HashMap::retain`: the entry that stays, and what was seen within the span. -/
def sweep [DecidableEq κ] (seenAt : ν → Nat) (stays : κ) (span now : Nat) (table : List (κ × ν)) : List (κ × ν) :=
  table.filter (fun e => e.1 = stays ∨ now - seenAt e.2 ≤ span)

/-- **What a table holds of what was seen** up to the time `clock`, where `seen` says of a key and a time that the key
was seen then. -/
structure Tracks (seenAt : ν → Nat) (stays : κ) (span : Nat) (seen : κ → Nat → Prop) (clock : Nat)
    (table : List (κ × ν)) : Prop where
  nodup : (keys table).Nodup
  kept : stays ∈ keys table
  known : ∀ e ∈ table, e.1 ≠ stays → seen e.1 (seenAt e.2)
  recent : ∀ key time, key ≠ stays → seen key time →
    (∃ e ∈ table, e.1 = key ∧ time ≤ seenAt e.2) ∨ time + span < clock

variable {seenAt : ν → Nat} {stays : κ} {span clock now : Nat} {seen seen' : κ → Nat → Prop} {table : List (κ × ν)}

theorem mem_keys {key : κ} : key ∈ keys table ↔ ∃ e ∈ table, e.1 = key := List.mem_map

theorem nodup_filter (p : κ × ν → Bool) (h : (keys table).Nodup) : (keys (table.filter p)).Nodup :=
  h.sublist (List.filter_sublist.map Prod.fst)

theorem Tracks.later (h : Tracks seenAt stays span seen clock table) (hle : clock ≤ now) :
    Tracks seenAt stays span seen now table :=
  { h with recent := fun key time hne hs => (h.recent key time hne hs).imp_right (fun hlt => Nat.lt_of_lt_of_le hlt hle) }

/-- The same table, for another account of what was seen. -/
theorem Tracks.congr (h : Tracks seenAt stays span seen clock table) (hseen : ∀ key time, seen key time ↔ seen' key time) :
    Tracks seenAt stays span seen' clock table :=
  { h with
    known := fun e he hne => (hseen _ _).1 (h.known e he hne)
    recent := fun key time hne hs => h.recent key time hne ((hseen _ _).2 hs) }

/-- **What a table holds of the latest entry of every key**: nothing else, and all of them but the expired. -/
structure Recalls (seenAt : ν → Nat) (stays : κ) (span : Nat) (latest : κ → Option ν) (clock : Nat)
    (table : List (κ × ν)) : Prop where
  nodup : (keys table).Nodup
  known : ∀ e ∈ table, latest e.1 = some e.2
  recent : ∀ key value, latest key = some value → (key, value) ∈ table ∨ (key ≠ stays ∧ seenAt value + span < clock)

variable {latest : κ → Option ν}

theorem Recalls.later (h : Recalls seenAt stays span latest clock table) (hle : clock ≤ now) :
    Recalls seenAt stays span latest now table :=
  { h with recent := fun key value hlatest =>
      (h.recent key value hlatest).imp_right fun hold => ⟨hold.1, Nat.lt_of_lt_of_le hold.2 hle⟩ }

/-- The key that stays has its latest entry in the table. -/
theorem Recalls.mem_stays (h : Recalls seenAt stays span latest clock table) {value : ν} :
    (stays, value) ∈ table ↔ latest stays = some value :=
  ⟨fun he => h.known _ he, fun hlatest => (h.recent stays value hlatest).resolve_right fun hold => hold.1 rfl⟩

variable [DecidableEq κ]

theorem insert_insert (table : List (κ × ν)) (key : κ) (value : ν) :
    insert (insert table key value) key value = insert table key value := by
  unfold insert
  rw [List.filter_cons_of_neg (by simp), List.filter_filter]
  simp only [Bool.and_self]

theorem nodup_insert (h : (keys table).Nodup) (key : κ) (value : ν) : (keys (insert table key value)).Nodup := by
  refine List.nodup_cons.2 ⟨fun hm => ?_, nodup_filter _ h⟩
  obtain ⟨e, he, hek⟩ := mem_keys.1 hm
  exact absurd hek (of_decide_eq_true (List.mem_filter.1 he).2)

/-- **A key is seen.** -/
theorem Tracks.insert (h : Tracks seenAt stays span seen clock table) {key : κ} {value : ν} (hkey : key ≠ stays)
    (htime : ∀ key time, seen key time → time ≤ seenAt value) :
    Tracks seenAt stays span (fun k t => seen k t ∨ (k = key ∧ t = seenAt value)) clock
      (insert table key value) where
  nodup := nodup_insert h.nodup key value
  kept := by
    obtain ⟨e, he, hek⟩ := mem_keys.1 h.kept
    have hne : e.1 ≠ key := fun heq => hkey (heq.symm.trans hek)
    exact mem_keys.2 ⟨e, List.mem_cons_of_mem _ (List.mem_filter.2 ⟨he, decide_eq_true hne⟩), hek⟩
  known := by
    intro e he hne
    rcases List.mem_cons.1 he with rfl | he
    · exact Or.inr ⟨rfl, rfl⟩
    · exact Or.inl (h.known e (List.mem_filter.1 he).1 hne)
  recent := by
    intro k t hne hs
    by_cases hk : k = key
    · refine Or.inl ⟨_, List.mem_cons_self, hk.symm, ?_⟩
      rcases hs with hs | ⟨-, rfl⟩
      · exact htime k t hs
      · exact Nat.le_refl _
    · rcases hs with hs | ⟨heq, -⟩
      · refine (h.recent k t hne hs).imp_left ?_
        rintro ⟨e, he, hek, hle⟩
        have hek' : e.1 ≠ key := fun heq => hk (hek.symm.trans heq)
        exact ⟨e, List.mem_cons_of_mem _ (List.mem_filter.2 ⟨he, decide_eq_true hek'⟩), hek, hle⟩
      · exact absurd heq hk

theorem mem_sweep {e : κ × ν} : e ∈ sweep seenAt stays span now table ↔
    e ∈ table ∧ (e.1 = stays ∨ now ≤ seenAt e.2 + span) := by
  rw [sweep, List.mem_filter, decide_eq_true_eq]
  refine and_congr_right fun _ => or_congr_right ?_
  omega

/-- **Behind a sweep a key is there if it stays or was seen within the span.** -/
theorem Tracks.mem_keys_sweep (h : Tracks seenAt stays span seen clock table) (hle : clock ≤ now) {key : κ} :
    key ∈ keys (sweep seenAt stays span now table) ↔
      key = stays ∨ ∃ time, seen key time ∧ now ≤ time + span := by
  rw [mem_keys]
  constructor
  · rintro ⟨e, he, rfl⟩
    obtain ⟨he, hin⟩ := mem_sweep.1 he
    by_cases hne : e.1 = stays
    · exact Or.inl hne
    · exact Or.inr ⟨seenAt e.2, h.known e he hne, hin.resolve_left hne⟩
  · intro hkey
    by_cases hne : key = stays
    · obtain ⟨e, he, hek⟩ := mem_keys.1 h.kept
      exact ⟨e, mem_sweep.2 ⟨he, Or.inl hek⟩, hek.trans hne.symm⟩
    · obtain ⟨time, hs, hin⟩ := hkey.resolve_left hne
      rcases h.recent key time hne hs with ⟨e, he, hek, hlast⟩ | hold
      · exact ⟨e, mem_sweep.2 ⟨he, Or.inr (by omega)⟩, hek⟩
      · omega

/-- **A sweep keeps track.** -/
theorem Tracks.sweep (h : Tracks seenAt stays span seen clock table) (hle : clock ≤ now) :
    Tracks seenAt stays span seen now (sweep seenAt stays span now table) where
  nodup := nodup_filter _ h.nodup
  kept := (h.mem_keys_sweep hle).2 (Or.inl rfl)
  known := fun e he hne => h.known e (mem_sweep.1 he).1 hne
  recent := by
    intro key time hne hs
    rcases h.recent key time hne hs with ⟨e, he, hek, hlast⟩ | hold
    · by_cases hin : now ≤ seenAt e.2 + span
      · exact Or.inl ⟨e, mem_sweep.2 ⟨he, Or.inr hin⟩, hek, hlast⟩
      · exact Or.inr (by omega)
    · exact Or.inr (by omega)

/-! ## The latest entries -/

/-- **A key is seen.** -/
theorem Recalls.insert (h : Recalls seenAt stays span latest clock table) (hle : clock ≤ now) (key : κ) (value : ν) :
    Recalls seenAt stays span (Function.update latest key (some value)) now (insert table key value) where
  nodup := nodup_insert h.nodup key value
  known := by
    intro e he
    rcases List.mem_cons.1 he with rfl | he
    · exact Function.update_self _ _ _
    · obtain ⟨he, hne⟩ := List.mem_filter.1 he
      rw [Function.update_of_ne (of_decide_eq_true hne)]
      exact h.known e he
  recent := by
    intro k v hv
    by_cases hk : k = key
    · subst hk
      rw [Function.update_self] at hv
      cases hv
      exact Or.inl List.mem_cons_self
    · rw [Function.update_of_ne hk] at hv
      refine (h.recent k v hv).imp (fun he => ?_) (fun hold => ⟨hold.1, Nat.lt_of_lt_of_le hold.2 hle⟩)
      exact List.mem_cons_of_mem _ (List.mem_filter.2 ⟨he, decide_eq_true hk⟩)

/-- **What is left behind a sweep**: of the key that stays, and of every key seen within the span, the latest entry. -/
theorem Recalls.mem_sweep (h : Recalls seenAt stays span latest clock table) (hle : clock ≤ now) {key : κ} {value : ν} :
    (key, value) ∈ sweep seenAt stays span now table ↔
      latest key = some value ∧ (key = stays ∨ now ≤ seenAt value + span) := by
  rw [Expiry.mem_sweep]
  constructor
  · rintro ⟨he, hin⟩
    exact ⟨h.known _ he, hin⟩
  · rintro ⟨hlatest, hin⟩
    refine ⟨(h.recent key value hlatest).resolve_right ?_, hin⟩
    rintro ⟨hne, hold⟩
    have := hin.resolve_left hne
    omega

/-- **A sweep forgets no latest entry that counts.** -/
theorem Recalls.sweep (h : Recalls seenAt stays span latest clock table) (hle : clock ≤ now) :
    Recalls seenAt stays span latest now (sweep seenAt stays span now table) where
  nodup := nodup_filter _ h.nodup
  known := fun e he => h.known e (Expiry.mem_sweep.1 he).1
  recent := by
    intro key value hlatest
    by_cases hin : key = stays ∨ now ≤ seenAt value + span
    · exact Or.inl ((h.mem_sweep hle).2 ⟨hlatest, hin⟩)
    · exact Or.inr ⟨fun heq => hin (Or.inl heq), by omega⟩


end Expiry
