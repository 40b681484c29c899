/-
The fewest decimal digits that identify a binary number.

Every decimal that lies between the midpoints to a number's two neighbours
reads back as that number.  `Shortest.decimal` looks for the coarsest power of
ten that has a multiple there, and takes the multiple nearest to the number.
All comparisons are between naturals.
-/
import TableGateway.Number.Rounding

namespace TableGateway

/-- The decimal number `digits * 10 ^ exponent`. -/
structure Decimal where
  digits : Nat
  exponent : Int
deriving DecidableEq, Repr

/-- Which of two equally near decimals is written. -/
inductive Tie where
  | even
  | up
deriving DecidableEq, Repr

namespace Shortest

/-- The reals that round to a number, over one denominator: the number itself,
the midpoints on both sides, and whether the midpoints belong to it. -/
structure Interval where
  low : Nat
  value : Nat
  high : Nat
  den : Nat
  closed : Bool

/-- The interval of `m * 2 ^ q` in a format.  Below a power of two the numbers
lie twice as close, so there the lower midpoint is nearer. -/
def interval (f : Format) (m : Nat) (q : Int) : Interval :=
  let unit := if 0 ≤ q - 2 then 1 <<< (q - 2).toNat else 1
  let below := if m = 1 <<< (f.precision - 1) ∧ f.least < q then 1 else 2
  { low := (4 * m - below) * unit
    value := 4 * m * unit
    high := (4 * m + 2) * unit
    den := if 0 ≤ q - 2 then 1 else 1 <<< (2 - q).toNat
    closed := m % 2 = 0 }

/-- The multiple of `10 ^ g` in the interval that is nearest to the number, if
one of the number's two neighbouring multiples is in the interval. -/
def onGrid (i : Interval) (tie : Tie) (g : Int) : Option Nat :=
  let step := i.den * Nat.pow 10 g.toNat
  let up := Nat.pow 10 (-g).toNat
  let inside (c : Nat) : Bool :=
    if i.closed then i.low * up ≤ c * step ∧ c * step ≤ i.high * up
    else i.low * up < c * step ∧ c * step < i.high * up
  let below := i.value * up / step
  let above := below + 1
  match inside below, inside above with
  | true, true =>
      let down := i.value * up - below * step
      let rise := above * step - i.value * up
      if down < rise then some below
      else if rise < down then some above
      else match tie with
        | .up => some above
        | .even => some (if below % 2 = 0 then below else above)
  | true, false => some below
  | false, true => some above
  | false, false => none

/-- The first grid with a hit, from `10 ^ g` down to finer ones. -/
def search (i : Interval) (tie : Tie) : Nat → Int → Decimal
  | 0, g => ⟨i.value * Nat.pow 10 (-g).toNat / (i.den * Nat.pow 10 g.toNat), g⟩
  | n + 1, g =>
      match onGrid i tie g with
      | some c => ⟨c, g⟩
      | none => search i tie n (g - 1)

/-- Moves factors of ten from the digits to the exponent. -/
def strip : Nat → Decimal → Decimal
  | 0, d => d
  | n + 1, d => if d.digits % 10 = 0 then strip n ⟨d.digits / 10, d.exponent + 1⟩ else d

/-- The shortest decimal that reads back as the positive number `m * 2 ^ q` of
the format, the nearest of them, its last digit not zero.  The search starts
above the number's leading digit, and seventeen digits tell all doubles apart,
so the bound on its length is never met. -/
def decimal (f : Format) (tie : Tie) (m : Nat) (q : Int) : Decimal :=
  let top := ((m.log2 : Int) + q) * 30103 / 100000 + 2
  strip 20 (search (interval f m q) tie 24 top)

end Shortest

end TableGateway
