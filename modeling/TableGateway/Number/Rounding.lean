/-
Rounding to a binary floating-point format, in exact arithmetic.

A `Format` says how many bits a significand has and how far its exponents
reach.  `Format.round` takes an exact quotient of naturals to the nearest
number of the format, a tie going to the even significand, and to `infinite`
past the largest one.  No operation of the machine's own floating-point unit
is used, so every step is open to proof.
-/
namespace TableGateway

/-- A binary format: its finite numbers are `m * 2 ^ q` with `m` of at most
`precision` bits and `least ≤ q ≤ greatest`. -/
structure Format where
  precision : Nat
  least : Int
  greatest : Int
deriving DecidableEq, Repr

namespace Format

/-- Double precision: 53 bits. -/
def double : Format := ⟨53, -1074, 971⟩

/-- Single precision: 24 bits. -/
def single : Format := ⟨24, -149, 104⟩

end Format

/-- The absolute value of a floating-point number that is not NaN. -/
inductive Magnitude where
  /-- The number `significand * 2 ^ exponent`. -/
  | finite (significand : Nat) (exponent : Int)
  | infinite
deriving DecidableEq, Repr

namespace Rounding

/-- The integer nearest to `num / den`; a tie goes to the even one. -/
def nearest (num den : Nat) : Nat :=
  let quotient := num / den
  let twice := 2 * (num % den)
  if twice < den ∨ (twice = den ∧ quotient % 2 = 0) then quotient else quotient + 1

/-- `num / (den * 2 ^ q)` as a quotient of naturals, for an exponent of either sign. -/
def scale (num den : Nat) (q : Int) : Nat × Nat :=
  if 0 ≤ q then (num, den <<< q.toNat) else (num <<< (-q).toNat, den)

/-- The greatest `e` with `2 ^ e ≤ num / den`, for positive `num` and `den`. -/
def log2 (num den : Nat) : Int :=
  let guess := (num.log2 : Int) - den.log2
  let (n, d) := scale num den guess
  if d ≤ n then guess else guess - 1

end Rounding

namespace Format

/-- The number of the format nearest to `num / den`, ties to the even significand. -/
def round (f : Format) (num den : Nat) : Magnitude :=
  if num = 0 then .finite 0 f.least
  else
    let q := max f.least (Rounding.log2 num den - (f.precision - 1))
    let (n, d) := Rounding.scale num den q
    let m := Rounding.nearest n d
    let (m, q) := if m = 1 <<< f.precision then (m / 2, q + 1) else (m, q)
    if f.greatest < q then .infinite else .finite m q

end Format

namespace Magnitude

/-- The exact quotient of naturals that a finite magnitude stands for. -/
def ratio (significand : Nat) (exponent : Int) : Nat × Nat :=
  if 0 ≤ exponent then (significand <<< exponent.toNat, 1)
  else (significand, 1 <<< (-exponent).toNat)

/-- The product of two magnitudes, rounded to the format; infinity absorbs. -/
def mul (f : Format) : Magnitude → Magnitude → Magnitude
  | .finite m q, .finite n r =>
      let a := ratio m q
      let b := ratio n r
      f.round (a.1 * b.1) (a.2 * b.2)
  | _, _ => .infinite

/-- The quotient of two magnitudes, rounded to the format. -/
def div (f : Format) : Magnitude → Magnitude → Magnitude
  | .finite m q, .finite n r =>
      let a := ratio m q
      let b := ratio n r
      f.round (a.1 * b.2) (a.2 * b.1)
  | .infinite, _ => .infinite
  | .finite _ _, .infinite => .finite 0 f.least

end Magnitude

end TableGateway
