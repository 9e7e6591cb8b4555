import RoomTransfer.Number.Rounding

/-! Double precision numbers as their sixty-four bits. A finite number is a whole multiple
of the smallest positive one, so every comparison and every rounding is done on naturals. -/
namespace RoomTransfer.Number

structure Binary64 where
  bits : UInt64
  deriving DecidableEq, Inhabited

namespace Binary64

/-- `2 ^ 1074` smallest positive numbers make one. -/
def scale : Nat := Nat.pow 2 1074

def signBit : Nat := 0x8000000000000000

/-- The weight of the bit that a significand has without storing it, and of an exponent's unit. -/
def hiddenBit : Nat := 0x10000000000000

def negative (x : Binary64) : Bool := signBit ≤ x.bits.toNat

def payload (x : Binary64) : Nat := x.bits.toNat % signBit

def exponentField (x : Binary64) : Nat := x.payload / hiddenBit

def fractionField (x : Binary64) : Nat := x.payload % hiddenBit

def isFinite (x : Binary64) : Bool := x.exponentField < 2047

def isNaN (x : Binary64) : Bool := x.exponentField = 2047 ∧ x.fractionField ≠ 0

def isInfinite (x : Binary64) : Bool := x.exponentField = 2047 ∧ x.fractionField = 0

/-- How far the significand is shifted: neighbours of `x` lie `2 ^ shift` units apart. -/
def shift (x : Binary64) : Nat := x.exponentField - 1

def significand (x : Binary64) : Nat :=
  if x.exponentField = 0 then x.fractionField else hiddenBit + x.fractionField

/-- The magnitude of a finite number, counted in smallest positive numbers. -/
def units (x : Binary64) : Nat := x.significand * Nat.pow 2 x.shift

def signedUnits (x : Binary64) : Int :=
  if x.negative then -(x.units : Int) else x.units

def ofFields (negative : Bool) (payload : Nat) : Binary64 :=
  ⟨UInt64.ofNat ((if negative then signBit else 0) + payload)⟩

def nan : Binary64 := ⟨0x7FF8000000000000⟩

def infinity (negative : Bool) : Binary64 := ofFields negative (2047 * hiddenBit)

def zero : Binary64 := ⟨0⟩

/-- The payload of the number nearest to `num / den` units, ties to the even significand.
A significand that rounds up to `2 ^ 53` carries into the exponent field by itself. -/
def roundedPayload (num den : Nat) : Nat :=
  let shift := (num / den).log2 + 1 - 53
  shift * hiddenBit + roundHalfEven num (den * Nat.pow 2 shift)

/-- The number nearest to `num / den`; beyond the largest finite number it is infinite. -/
def ofRatio (negative : Bool) (num den : Nat) : Binary64 :=
  let payload := roundedPayload (num * scale) den
  if payload < 2047 * hiddenBit then ofFields negative payload else infinity negative

def ofInt (i : Int) : Binary64 := ofRatio (i < 0) i.natAbs 1

def ofDecimal (negative : Bool) (digits : Nat) (exponent : Int) : Binary64 :=
  if 0 ≤ exponent then ofRatio negative (digits * Nat.pow 10 exponent.toNat) 1
  else ofRatio negative digits (Nat.pow 10 exponent.natAbs)

/-- The number nearest to a signed count of units over `den`; `zeroSign` is the sign of zero. -/
def ofSignedUnits (zeroSign : Bool) (num : Int) (den : Nat) : Binary64 :=
  ofRatio (if num = 0 then zeroSign else num < 0) num.natAbs (scale * den)

def divNat (x : Binary64) (den : Nat) : Binary64 :=
  if x.isFinite then ofSignedUnits x.negative x.signedUnits den else x

def add (x y : Binary64) : Binary64 :=
  if x.isFinite && y.isFinite then
    ofSignedUnits (x.negative && y.negative) (x.signedUnits + y.signedUnits) 1
  else if x.isNaN || y.isNaN then nan
  else if x.isFinite then y
  else if y.isFinite || x == y then x
  else nan

def mulNat (x : Binary64) (n : Nat) : Binary64 :=
  if x.isFinite then ofSignedUnits x.negative (x.signedUnits * n) 1 else x

def neg (x : Binary64) : Binary64 := ⟨x.bits ^^^ 0x8000000000000000⟩

def isZero (x : Binary64) : Bool := x.payload = 0

/-- The order of two numbers; a number that is no number is in no order. -/
def compare? (x y : Binary64) : Option Ordering :=
  if x.isNaN || y.isNaN then none
  else if x.isInfinite || y.isInfinite then
    let side (z : Binary64) : Int := if z.isFinite then 0 else if z.negative then -1 else 1
    some (compare (side x) (side y))
  else some (compare x.signedUnits y.signedUnits)

/-- The order of a number and an integer, compared exactly. -/
def compareInt? (x : Binary64) (i : Int) : Option Ordering :=
  if x.isNaN then none
  else if x.isInfinite then some (if x.negative then .lt else .gt)
  else some (compare x.signedUnits (i * (scale : Int)))

end Binary64

end RoomTransfer.Number
