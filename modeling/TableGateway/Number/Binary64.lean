/-
Double-precision numbers as bit patterns.

A `Binary64` is the 64 bits of the interchange format: a sign bit, eleven bits
of exponent and fifty-two of fraction.  Equality is equality of bits, so it is
decidable and tells `0.0` from `-0.0`.
-/
import TableGateway.Number.Rounding

namespace TableGateway

/-- A double-precision floating-point number, by its bits. -/
structure Binary64 where
  bits : UInt64
deriving DecidableEq, Repr, Inhabited

namespace Binary64

/-- The bit above those of the fraction. -/
def hiddenBit : Nat := 1 <<< 52

/-- The sign bit. -/
def negative (x : Binary64) : Bool :=
  1 <<< 63 ≤ x.bits.toNat

/-- The eleven bits of the exponent. -/
def exponentField (x : Binary64) : Nat :=
  x.bits.toNat / hiddenBit % 2048

/-- The fifty-two bits below the exponent. -/
def fractionField (x : Binary64) : Nat :=
  x.bits.toNat % hiddenBit

/-- Neither infinite nor NaN. -/
def isFinite (x : Binary64) : Bool :=
  x.exponentField != 2047

def isNaN (x : Binary64) : Bool :=
  x.exponentField == 2047 && x.fractionField != 0

/-- The number without its sign: an exponent field of zero marks the numbers
below `2 ^ 52` units of the last place, all others carry the hidden bit. -/
def magnitude (x : Binary64) : Magnitude :=
  if x.exponentField = 2047 then .infinite
  else if x.exponentField = 0 then .finite x.fractionField Format.double.least
  else .finite (hiddenBit + x.fractionField) (x.exponentField - 1075)

/-- The number with a given sign bit and magnitude, the magnitude being one of
double precision. -/
def ofMagnitude (negative : Bool) (a : Magnitude) : Binary64 :=
  let sign := if negative then 1 <<< 63 else 0
  match a with
  | .infinite => ⟨UInt64.ofNat (sign + 2047 * hiddenBit)⟩
  | .finite m q =>
      if m < hiddenBit then ⟨UInt64.ofNat (sign + m)⟩
      else ⟨UInt64.ofNat (sign + (q + 1075).toNat * hiddenBit + (m - hiddenBit))⟩

/-- The quiet NaN with no payload. -/
def nan : Binary64 := ⟨0x7FF8000000000000⟩

/-- The double nearest to an integer. -/
def ofInt (n : Int) : Binary64 :=
  ofMagnitude (n < 0) (Format.double.round n.natAbs 1)

/-- The number with a given sign bit and a magnitude of a smaller format.  A
magnitude that is not zero is shifted until its leading bit is the hidden one;
the exponents of smaller formats leave room for that. -/
def widen (negative : Bool) : Magnitude → Binary64
  | .infinite => ofMagnitude negative .infinite
  | .finite m q =>
      if m = 0 then ofMagnitude negative (.finite 0 Format.double.least)
      else
        let shift := 52 - m.log2
        ofMagnitude negative (.finite (m <<< shift) (q - shift))

end Binary64

end TableGateway
