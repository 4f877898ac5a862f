import Mathlib.Data.List.Basic
import Mathlib.Data.Nat.Basic
/-!
# Length-prefixed frames

A frame is a body preceded by its length in four little-endian bytes.  Nothing here names a particular protocol.
-/
namespace Frames

/-- The four little-endian bytes of a length. -/
def header (n : Nat) : List UInt8 :=
  [UInt8.ofNat n, UInt8.ofNat (n / 256), UInt8.ofNat (n / 65536), UInt8.ofNat (n / 16777216)]

/-- The number little-endian bytes denote. -/
def lengthOf : List UInt8 → Nat
  | [] => 0
  | b :: bs => b.toNat + 256 * lengthOf bs

def encode (body : List UInt8) : List UInt8 := header body.length ++ body

def encodeAll (bodies : List (List UInt8)) : List UInt8 := (bodies.map encode).flatten

@[simp] theorem length_header (n : Nat) : (header n).length = 4 := rfl

theorem lengthOf_header {n : Nat} (h : n < 4294967296) : lengthOf (header n) = n := by
  simp only [header, lengthOf, UInt8.toNat_ofNat']
  omega

theorem length_encode (body : List UInt8) : (encode body).length = 4 + body.length := by
  simp [encode]

@[simp] theorem encodeAll_nil : encodeAll [] = [] := rfl

@[simp] theorem encodeAll_cons (body : List UInt8) (bodies : List (List UInt8)) :
    encodeAll (body :: bodies) = encode body ++ encodeAll bodies := rfl

theorem encodeAll_append (as bs : List (List UInt8)) : encodeAll (as ++ bs) = encodeAll as ++ encodeAll bs := by
  simp [encodeAll]

/-- The bytes of an ASCII text. -/
def ascii (s : String) : List UInt8 := s.toList.map (fun c => UInt8.ofNat c.toNat)

end Frames
