/-
Single-precision numbers as bit patterns, and how they are widened.

A `Binary32` is the 32 bits of the interchange format: a sign bit, eight bits of
exponent and twenty-three of fraction.  Every single is the value of a double
too, so `Binary32.toBinary64` loses nothing but the payload of a NaN.
-/
import TableGateway.Number.Binary64

namespace TableGateway

/-- A single-precision floating-point number, by its bits. -/
structure Binary32 where
  bits : UInt32
deriving DecidableEq, Repr, Inhabited

namespace Binary32

/-- The bit above those of the fraction. -/
def hiddenBit : Nat := 1 <<< 23

/-- The sign bit. -/
def negative (x : Binary32) : Bool :=
  1 <<< 31 ≤ x.bits.toNat

/-- The eight bits of the exponent. -/
def exponentField (x : Binary32) : Nat :=
  x.bits.toNat / hiddenBit % 256

/-- The twenty-three bits below the exponent. -/
def fractionField (x : Binary32) : Nat :=
  x.bits.toNat % hiddenBit

/-- Neither infinite nor NaN. -/
def isFinite (x : Binary32) : Bool :=
  x.exponentField != 255

def isNaN (x : Binary32) : Bool :=
  x.exponentField == 255 && x.fractionField != 0

/-- The number without its sign. -/
def magnitude (x : Binary32) : Magnitude :=
  if x.exponentField = 255 then .infinite
  else if x.exponentField = 0 then .finite x.fractionField Format.single.least
  else .finite (hiddenBit + x.fractionField) (x.exponentField - 150)

/-- The number with a given sign bit and magnitude, the magnitude being one of
single precision. -/
def ofMagnitude (negative : Bool) (a : Magnitude) : Binary32 :=
  let sign := if negative then 1 <<< 31 else 0
  match a with
  | .infinite => ⟨UInt32.ofNat (sign + 255 * hiddenBit)⟩
  | .finite m q =>
      if m < hiddenBit then ⟨UInt32.ofNat (sign + m)⟩
      else ⟨UInt32.ofNat (sign + (q + 150).toNat * hiddenBit + (m - hiddenBit))⟩

/-- The quiet NaN with no payload. -/
def nan : Binary32 := ⟨0x7FC00000⟩

/-- The double of the same value. -/
def toBinary64 (x : Binary32) : Binary64 :=
  if x.isNaN then .nan else .widen x.negative x.magnitude

end Binary32

end TableGateway
