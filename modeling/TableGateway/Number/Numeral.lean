/-
Decimal numerals and the numbers they stand for.

A `Numeral` is what a decimal text spells: a sign, digits before the point,
digits after it and a power of ten.  It has two readings.  `Numeral.toBinary`
rounds the exact value once.  `Numeral.approximate` is the quicker reading of
JSON texts: it keeps the leading digits that fit 64 bits, rounds them and the
power of ten separately, and rounds their product or quotient again, so that
it may miss the nearest number by a unit of the last place.
-/
import TableGateway.Number.Binary32

namespace TableGateway

/-- A decimal numeral.  `fraction` is `none` when there is no point and
`exponent` is `none` when there is no exponent mark. -/
structure Numeral where
  negative : Bool
  whole : List Nat
  fraction : Option (List Nat)
  exponent : Option Int
deriving DecidableEq, Repr

namespace Numeral

/-- The natural number with the given decimal digits. -/
def natOfDigits (ds : List Nat) : Nat :=
  ds.foldl (fun n d => 10 * n + d) 0

/-- Neither a point nor an exponent mark. -/
def isInteger (n : Numeral) : Bool :=
  n.fraction.isNone && n.exponent.isNone

/-- All digits, those after the point included, as one number. -/
def significand (n : Numeral) : Nat :=
  natOfDigits (n.whole ++ n.fraction.getD [])

/-- The power of ten by which `significand` is to be multiplied. -/
def power (n : Numeral) : Int :=
  n.exponent.getD 0 - (n.fraction.getD []).length

/-- The integer an integer numeral stands for. -/
def toInt (n : Numeral) : Int :=
  if n.negative then -(natOfDigits n.whole : Int) else natOfDigits n.whole

/-- The magnitude of the format nearest to the numeral's exact value.  Powers of
ten beyond those of any double are not computed. -/
def toMagnitude (f : Format) (n : Numeral) : Magnitude :=
  let s := n.significand
  let leading := n.power + (Nat.repr s).length
  if s = 0 ∨ leading < -400 then .finite 0 f.least
  else if 400 < leading then .infinite
  else if 0 ≤ n.power then f.round (s * Nat.pow 10 n.power.toNat) 1
  else f.round s (Nat.pow 10 (-n.power).toNat)

/-- The double nearest to the numeral. -/
def toBinary64 (n : Numeral) : Binary64 :=
  .ofMagnitude n.negative (n.toMagnitude .double)

/-- The single-precision number nearest to the numeral. -/
def toBinary32 (n : Numeral) : Binary32 :=
  .ofMagnitude n.negative (n.toMagnitude .single)

/-- Appends digits to a significand as long as it stays below `2 ^ 64`; returns
the digits left over. -/
def gather (s : Nat) : List Nat → Nat × List Nat
  | [] => (s, [])
  | d :: ds => if s * 10 + d < UInt64.size then gather (s * 10 + d) ds else (s, d :: ds)

/-- The double nearest to a power of ten. -/
def powerOfTen (k : Nat) : Magnitude :=
  Format.double.round (Nat.pow 10 k) 1

/-- `s * 10 ^ e`, rounding the two factors and their product; `none` past the
largest double.  A power below `10 ^ -308` is divided out in two steps, and
below `10 ^ -616` nothing is left. -/
def scaled (s : Nat) (e : Int) : Option Magnitude :=
  let f := Format.double
  let m := f.round s 1
  if s = 0 then some (.finite 0 f.least)
  else if 308 < e then none
  else if 0 ≤ e then
    match m.mul f (powerOfTen e.toNat) with
    | .infinite => none
    | a => some a
  else if -308 ≤ e then some (m.div f (powerOfTen (-e).toNat))
  else if -616 ≤ e then
    some ((m.div f (powerOfTen 308)).div f (powerOfTen (-e - 308).toNat))
  else some (.finite 0 f.least)

/-- The quick reading: digits before the point that do not fit count as powers
of ten, digits after it that do not fit are dropped. -/
def approximate (n : Numeral) : Option Binary64 :=
  let (s, left) := gather 0 n.whole
  let digits := n.fraction.getD []
  let (s, dropped) := gather s digits
  let e := n.exponent.getD 0 + left.length - (digits.length - dropped.length)
  (scaled s e).map (.ofMagnitude n.negative)

/-! ## Reading -/

/-- The value of a decimal digit. -/
def digit? (c : Char) : Option Nat :=
  if c.isDigit then some (c.toNat - 48) else none

/-- Splits off the leading decimal digits. -/
def digits : List Char → List Nat × List Char
  | [] => ([], [])
  | c :: cs =>
      match digit? c with
      | some d => ((d :: (digits cs).1), (digits cs).2)
      | none => ([], c :: cs)

/-- An optional sign: whether it is a minus, and the rest. -/
def sign : List Char → Bool × List Char
  | '-' :: cs => (true, cs)
  | '+' :: cs => (false, cs)
  | cs => (false, cs)

/-- An optional point with the digits after it. -/
def fractionPart : List Char → Option (List Nat) × List Char
  | '.' :: cs => (some (digits cs).1, (digits cs).2)
  | cs => (none, cs)

/-- An optional exponent up to the end of the text; its digits are required. -/
def exponentPart? : List Char → Option (Option Int)
  | [] => some none
  | c :: cs =>
      if c = 'e' ∨ c = 'E' then
        match digits (sign cs).2 with
        | ([], _) => none
        | (ds, []) =>
            let n : Int := natOfDigits ds
            some (some (if (sign cs).1 then -n else n))
        | _ => none
      else none

/-- Reads a numeral that takes the whole text: digits, perhaps a point with
digits, perhaps an exponent.  A missing whole or fractional part reads as no
digits. -/
def ofChars? (negative : Bool) (cs : List Char) : Option Numeral :=
  let (whole, rest) := digits cs
  let (fraction, rest) := fractionPart rest
  (exponentPart? rest).map fun exponent => ⟨negative, whole, fraction, exponent⟩

/-- The form of JSON numbers: digits before the point, without a leading zero,
and digits after it if there is one. -/
def isStrict (n : Numeral) : Bool :=
  n.fraction != some [] &&
    match n.whole with
    | [] => false
    | [_] => true
    | d :: _ => d != 0

/-- Reads a JSON number: a minus is the only sign allowed in front. -/
def strict? (cs : List Char) : Option Numeral :=
  let numeral := match cs with
    | '-' :: rest => ofChars? true rest
    | _ => ofChars? false cs
  numeral.filter isStrict

/-- What texts are read as in one precision. -/
structure Reading (α : Type) where
  nan : α
  ofMagnitude : Bool → Magnitude → α
  ofNumeral : Numeral → α

def double : Reading Binary64 := ⟨.nan, .ofMagnitude, toBinary64⟩

def single : Reading Binary32 := ⟨.nan, .ofMagnitude, toBinary32⟩

/-- Reads a number as it is written in display text, the names of the infinities
and of NaN included. -/
def free? {α : Type} (r : Reading α) (text : String) : Option α :=
  let (negative, rest) := sign text.toList
  let name := String.ofList (rest.map Char.toLower)
  if name = "nan" then some r.nan
  else if name = "inf" ∨ name = "infinity" then some (r.ofMagnitude negative .infinite)
  else
    match ofChars? negative rest with
    | some n => if n.whole = [] ∧ n.fraction.getD [] = [] then none else some (r.ofNumeral n)
    | none => none

end Numeral

end TableGateway
