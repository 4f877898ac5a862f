import Mathlib.Data.List.Basic
import Mathlib.Data.Nat.Digits.Defs
import Mathlib.Tactic.Common
/-!
# Strings of bits

Bytes as bits, the highest first, and encodings that write one symbol for each group of so many bits.
-/
namespace BitString

/-- The number the bits write. -/
def value (bits : List Bool) : Nat := Nat.ofDigits 2 (bits.reverse.map Bool.toNat)

def ofByte (byte : UInt8) : List Bool := [7, 6, 5, 4, 3, 2, 1, 0].map byte.toNat.testBit

def ofBytes (bytes : List UInt8) : List Bool := bytes.flatMap ofByte

/-- Groups of `width` bits; what is left fills a last group up with zeros. -/
def groups (width : Nat) (bits : List Bool) : List (List Bool) :=
  if bits = [] ∨ width = 0 then []
  else (bits.take width).rightpad width false :: groups width (bits.drop width)
termination_by bits.length
decreasing_by
  rename_i h
  have hpos : 0 < bits.length := List.length_pos_iff.2 (fun hnil => h (.inl hnil))
  rw [List.length_drop]
  omega

/-- The symbols of the groups. -/
def encode {α : Type} (symbol : Nat → α) (width : Nat) (bits : List Bool) : List α :=
  (groups width bits).map (fun group => symbol (value group))

/-! ## Numbers -/

@[simp] theorem value_nil : value [] = 0 := rfl

theorem value_append (a b : List Bool) : value (a ++ b) = 2 ^ b.length * value a + value b := by
  unfold value
  rw [List.reverse_append, List.map_append, Nat.ofDigits_append, List.length_map, List.length_reverse, add_comm]

theorem value_lt (bits : List Bool) : value bits < 2 ^ bits.length := by
  have h := Nat.ofDigits_lt_base_pow_length (b := 2) (l := bits.reverse.map Bool.toNat) (by decide) (fun x hx => ?_)
  · rwa [List.length_map, List.length_reverse] at h
  · obtain ⟨bit, -, rfl⟩ := List.mem_map.1 hx
    exact Bool.toNat_lt bit

theorem value_inj {a b : List Bool} (hlen : a.length = b.length) (h : value a = value b) : a = b := by
  have hdigit : ∀ bits : List Bool, ∀ x ∈ bits.reverse.map Bool.toNat, x < 2 := by
    intro bits x hx
    obtain ⟨bit, -, rfl⟩ := List.mem_map.1 hx
    exact Bool.toNat_lt bit
  have hmap := Nat.ofDigits_inj_of_len_eq (by decide) (by simpa using hlen) (hdigit a) (hdigit b) h
  have hbit : Function.Injective Bool.toNat := by
    intro x y
    cases x <;> cases y <;> simp
  exact List.reverse_injective (List.map_injective_iff.2 hbit hmap)

theorem value_replicate_false (n : Nat) : value (List.replicate n false) = 0 := by
  induction n with
  | zero => rfl
  | succ n ih => rw [List.replicate_succ', value_append, ih]; rfl

theorem value_ofByte (byte : UInt8) : value (ofByte byte) = byte.toNat := by
  have hall : ∀ n < 256, value ([7, 6, 5, 4, 3, 2, 1, 0].map (Nat.testBit n)) = n := by decide +kernel
  exact hall byte.toNat byte.toNat_lt

@[simp] theorem length_ofByte (byte : UInt8) : (ofByte byte).length = 8 := rfl

theorem length_ofBytes (bytes : List UInt8) : (ofBytes bytes).length = 8 * bytes.length := by
  unfold ofBytes
  rw [List.length_flatMap, show (bytes.map fun byte => (ofByte byte).length) = bytes.map (fun _ => 8) from rfl,
    List.map_const', List.sum_replicate_nat, Nat.mul_comm]

theorem ofBytes_append (a b : List UInt8) : ofBytes (a ++ b) = ofBytes a ++ ofBytes b := List.flatMap_append

/-! ## Groups -/

@[simp] theorem groups_nil (width : Nat) : groups width [] = [] := by
  rw [groups, if_pos (.inl rfl)]

/-- Lists of whole groups. -/
def Whole (width : Nat) (gs : List (List Bool)) : Prop := ∀ group ∈ gs, group.length = width

section groups

variable {α : Type} {symbol : Nat → α} {width : Nat}

/-- **Whole groups in front of a string are its first groups.** -/
theorem groups_flatten (hwidth : 0 < width) : ∀ {gs : List (List Bool)}, Whole width gs → ∀ bits,
    groups width (gs.flatten ++ bits) = gs ++ groups width bits
  | [], _, _ => rfl
  | group :: gs, hwhole, bits => by
    have hgroup : group.length = width := hwhole group List.mem_cons_self
    have ih := groups_flatten hwidth (fun g hg => hwhole g (List.mem_cons_of_mem group hg)) bits
    have hne : ¬ (group ++ (gs.flatten ++ bits) = [] ∨ width = 0) := by
      rintro (h | h)
      · rw [(List.append_eq_nil_iff.1 h).1] at hgroup
        exact hwidth.ne hgroup
      · omega
    rw [List.flatten_cons, List.append_assoc, groups, if_neg hne, ← hgroup, List.take_left, List.drop_left, List.rightpad,
      Nat.sub_self, List.replicate_zero, List.append_nil, hgroup, ih, List.cons_append]

/-- A last group that is not whole. -/
theorem groups_short {bits : List Bool} (hne : bits ≠ []) (hshort : bits.length < width) :
    groups width bits = [bits ++ List.replicate (width - bits.length) false] := by
  rw [groups, if_neg, List.take_of_length_le hshort.le, List.drop_of_length_le hshort.le, groups_nil, List.rightpad]
  rintro (h | h)
  · exact hne h
  · omega

theorem exists_whole : ∀ (n : Nat) {bits : List Bool}, width * n ≤ bits.length →
    ∃ gs, Whole width gs ∧ gs.length = n ∧ bits.take (width * n) = gs.flatten
  | 0, bits, _ => ⟨[], by simp [Whole], rfl, by simp⟩
  | n + 1, bits, h => by
    rw [Nat.mul_succ] at h
    obtain ⟨gs, hwhole, hlen, hflatten⟩ := exists_whole n (show width * n ≤ (bits.drop width).length by
      rw [List.length_drop]
      omega)
    refine ⟨bits.take width :: gs, fun group hgroup => ?_, by rw [List.length_cons, hlen], ?_⟩
    · rcases List.mem_cons.1 hgroup with rfl | hgroup
      · rw [List.length_take]
        omega
      · exact hwhole group hgroup
    · rw [List.flatten_cons, ← hflatten, Nat.mul_succ, Nat.add_comm, List.take_add]

/-- **The first symbols are those of the first bits.** -/
theorem take_encode (hwidth : 0 < width) {n : Nat} {bits : List Bool} (h : width * n ≤ bits.length) :
    (encode symbol width bits).take n = encode symbol width (bits.take (width * n)) := by
  obtain ⟨gs, hwhole, hlen, hflatten⟩ := exists_whole n h
  have hall := groups_flatten hwidth hwhole (bits.drop (width * n))
  have hfirst := groups_flatten hwidth hwhole []
  rw [← hflatten, List.take_append_drop] at hall
  rw [← hflatten, List.append_nil, groups_nil, List.append_nil] at hfirst
  rw [encode, encode, hall, hfirst, ← List.map_take, ← hlen, List.take_left]

/-- **Symbols of whole groups tell their bits.** -/
theorem encode_inj (hwidth : 0 < width) (hsymbol : ∀ x < 2 ^ width, ∀ y < 2 ^ width, symbol x = symbol y → x = y)
    {n : Nat} {a b : List Bool} (ha : a.length = width * n) (hb : b.length = width * n)
    (h : encode symbol width a = encode symbol width b) : a = b := by
  have hgroups : ∀ bits : List Bool, bits.length = width * n →
      Whole width (groups width bits) ∧ (groups width bits).flatten = bits := by
    intro bits hbits
    obtain ⟨gs, hwhole, -, hflatten⟩ := exists_whole n (le_of_eq hbits.symm)
    rw [← hbits, List.take_length] at hflatten
    have hgs := groups_flatten hwidth hwhole []
    rw [List.append_nil, groups_nil, List.append_nil, ← hflatten] at hgs
    rw [hgs]
    exact ⟨hwhole, hflatten.symm⟩
  obtain ⟨hwholeA, hflattenA⟩ := hgroups a ha
  obtain ⟨hwholeB, hflattenB⟩ := hgroups b hb
  rw [← hflattenA, ← hflattenB]
  refine congrArg List.flatten ?_
  unfold encode at h
  generalize groups width a = gs at h hwholeA
  generalize groups width b = gs' at h hwholeB
  induction gs generalizing gs' with
  | nil => exact (List.map_eq_nil_iff.1 h.symm).symm
  | cons group gs ih =>
    cases gs' with
    | nil => cases h
    | cons group' gs' =>
      obtain ⟨hhead, htail⟩ := List.cons.inj h
      have hlen := hwholeA group List.mem_cons_self
      have hlen' := hwholeB group' List.mem_cons_self
      have hvalue := hsymbol _ (hlen ▸ value_lt group) _ (hlen' ▸ value_lt group') hhead
      rw [value_inj (hlen.trans hlen'.symm) hvalue,
        ih (fun g hg => hwholeA g (List.mem_cons_of_mem group hg)) gs' htail
          (fun g hg => hwholeB g (List.mem_cons_of_mem group' hg))]

end groups

end BitString
