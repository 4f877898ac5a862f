import Terracotta.Json
/-!
# Arithmetic of doubles

Doubles that are read from decimal text, multiplied and divided by whole numbers, compared with one and cast to a `u32`.
Every result is the double nearest to the exact one, of two the even one.
-/
namespace F64

def one : F64 := ⟨0x3FF0000000000000⟩

/-- The bits of an infinity, and of a NaN, less the sign. -/
def infinityBits : Nat := 0x7FF0000000000000

def nanBits : Nat := 0x7FF8000000000000

def isNegative (x : F64) : Bool := x.bits.msb

def ofMagnitude (negative : Bool) (magnitude : Nat) : F64 :=
  ⟨BitVec.ofNat 64 (if negative then 2 ^ 63 + magnitude else magnitude)⟩

/-- A finite double without its sign, in units of `2 ^ -1074`. -/
def units (x : F64) : Nat :=
  let magnitude := x.bits.toNat % 2 ^ 63
  if magnitude < 2 ^ 52 then magnitude
  else (2 ^ 52 + magnitude % 2 ^ 52) * 2 ^ (magnitude / 2 ^ 52 - 1)

/-- The bits of the double nearest to `num / den`. -/
def nearest (num den : Nat) : Nat :=
  let power := Nat.log2 (num * 2 ^ 1074 / den) - 52
  let unit := den * 2 ^ power
  let mantissa := num * 2 ^ 1074 / unit
  let rest := num * 2 ^ 1074 % unit
  let mantissa := if unit < 2 * rest ∨ (unit = 2 * rest ∧ mantissa % 2 = 1) then mantissa + 1 else mantissa
  -- a mantissa from 2 ^ 52 on carries the one that the exponent is short of
  min (power * 2 ^ 52 + mantissa) infinityBits

/-- `x * num / den`. -/
def scale (num den : Nat) (x : F64) : F64 :=
  if x.isFinite then ofMagnitude x.isNegative (nearest (x.units * num) (den * 2 ^ 1074)) else x

/-- `x > 1.0`. -/
def gtOne (x : F64) : Bool := !x.isNaN && !x.isNegative && decide (one.bits.toNat < x.bits.toNat)

/-- `x.round() as u32`. -/
def roundToU32 (x : F64) : UInt32 :=
  if x.isNaN || x.isNegative then 0
  else if x.isFinite then UInt32.ofNat (min ((2 * x.units + 2 ^ 1074) / 2 ^ 1075) 4294967295)
  else 4294967295

/-! ## Decimal text -/

/-- The number after an `e`, of which nothing may be left. -/
def parseExponent : List Char → Option Int
  | [] => none
  | c :: rest =>
    let (negative, digits) := if c = '-' then (true, rest) else if c = '+' then (false, rest) else (false, c :: rest)
    if digits ≠ [] ∧ digits.all Char.isDigit then
      some (if negative then -↑(Nat.ofDigitChars 10 digits 0) else ↑(Nat.ofDigitChars 10 digits 0))
    else none

/-- Digits around a point, and an exponent. -/
def parseNumber (s : List Char) : Option Nat := do
  let whole := s.takeWhile Char.isDigit
  let rest := s.dropWhile Char.isDigit
  let fraction := if rest.head? = some '.' then rest.tail.takeWhile Char.isDigit else []
  let rest := if rest.head? = some '.' then rest.tail.dropWhile Char.isDigit else rest
  if whole = [] ∧ fraction = [] then none
  else
    let exponent ← match rest with
      | [] => some 0
      | c :: digits => if c = 'e' ∨ c = 'E' then parseExponent digits else none
    let mantissa := Nat.ofDigitChars 10 (whole ++ fraction) 0
    let exponent := exponent - fraction.length
    return if 0 ≤ exponent then nearest (mantissa * 10 ^ exponent.toNat) 1
      else nearest mantissa (10 ^ (-exponent).toNat)

def parseMagnitude (s : List Char) : Option Nat :=
  if s.map Char.toLower = "inf".toList ∨ s.map Char.toLower = "infinity".toList then some infinityBits
  else if s.map Char.toLower = "nan".toList then some nanBits
  else parseNumber s

/-- `str::parse::<f64>`. -/
def parse : List Char → Option F64
  | [] => none
  | c :: rest =>
    if c = '-' then (parseMagnitude rest).map (ofMagnitude true)
    else if c = '+' then (parseMagnitude rest).map (ofMagnitude false)
    else (parseMagnitude (c :: rest)).map (ofMagnitude false)

example : (parse "18".toList).map (scale 1 100) = parse "0.18".toList := by decide +kernel

end F64
