/-
How a double-precision number is written in decimal.

All the written forms use the shortest digits that read back; a `Layout` holds
what they disagree on: where the exponent mark begins, whether a whole number
keeps a point, how an exponent's sign is shown and which way a tie goes.
-/
import TableGateway.Number.Binary64
import TableGateway.Number.Shortest

namespace TableGateway

/-- The decisions of one written form of floating-point numbers. -/
structure Layout where
  /-- The decimal exponents of the leading digit that are written without an
  exponent mark; `none` writes all of them so. -/
  positional : Option (Int × Int)
  /-- A whole number ends in `.0`. -/
  point : Bool
  /-- A positive exponent has a plus sign. -/
  plus : Bool
  tie : Tie
deriving DecidableEq, Repr

namespace Layout

/-- JSON text: positional from 0.00001 to below 10 ^ 16. -/
def json : Layout := ⟨some (-5, 15), true, true, .even⟩

/-- Display text: always positional, a whole number without a point. -/
def plain : Layout := ⟨none, false, false, .up⟩

/-- Inspection text: positional from 0.0001 to below 10 ^ 16. -/
def inspect : Layout := ⟨some (-4, 15), true, false, .up⟩

/-- The decimal digits of a natural number, most significant first. -/
def digitsOf (n : Nat) : List Char :=
  (Nat.repr n).toList

/-- `digits * 10 ^ exponent` without an exponent mark. -/
def positionalText (point : Bool) (d : Decimal) : List Char :=
  let ds := digitsOf d.digits
  let tail := if point then ['.', '0'] else []
  if 0 ≤ d.exponent then ds ++ List.replicate d.exponent.toNat '0' ++ tail
  else
    let places := (-d.exponent).toNat
    if places < ds.length then
      ds.take (ds.length - places) ++ '.' :: ds.drop (ds.length - places)
    else '0' :: '.' :: List.replicate (places - ds.length) '0' ++ ds

/-- One digit, a point and the others, if there are any, then the exponent. -/
def scientificText (plus : Bool) (ds : List Char) (leading : Int) : List Char :=
  let mantissa := match ds with
    | c :: c' :: rest => c :: '.' :: c' :: rest
    | _ => ds
  let sign := if leading < 0 then ['-'] else if plus then ['+'] else []
  mantissa ++ 'e' :: sign ++ digitsOf leading.natAbs

/-- The text of a decimal number that is not zero. -/
def decimalText (l : Layout) (d : Decimal) : List Char :=
  let ds := digitsOf d.digits
  let leading := d.exponent + ds.length - 1
  match l.positional with
  | none => positionalText l.point d
  | some (first, last) =>
      if first ≤ leading ∧ leading ≤ last then positionalText l.point d
      else scientificText l.plus ds leading

/-- The text of a number without its sign. -/
def magnitudeText (l : Layout) : Magnitude → List Char
  | .infinite => ['i', 'n', 'f']
  | .finite 0 _ => if l.point then ['0', '.', '0'] else ['0']
  | .finite m q => l.decimalText (Shortest.decimal .double l.tie m q)

/-- The text of any double; zero shows its sign, NaN has none. -/
def write (l : Layout) (x : Binary64) : String :=
  if x.isNaN then "NaN"
  else
    let text := l.magnitudeText x.magnitude
    String.ofList (if x.negative then '-' :: text else text)

end Layout

end TableGateway
