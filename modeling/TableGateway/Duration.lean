/-
Spans of time, to the nanosecond.
-/
namespace TableGateway

/-- A span of time. -/
structure Duration where
  nanos : Nat
deriving DecidableEq, Inhabited

namespace Duration

def zero : Duration := ⟨0⟩

/-- Nanoseconds in a second. -/
def perSecond : Nat := 1000000000

def ofParts (seconds nanos : Nat) : Duration := ⟨seconds * perSecond + nanos⟩

def ofMillis (n : Nat) : Duration := ⟨n * 1000000⟩

/-- The whole seconds. -/
def seconds (d : Duration) : Nat := d.nanos / perSecond

/-- The nanoseconds beyond the whole seconds. -/
def subseconds (d : Duration) : Nat := d.nanos % perSecond

instance : LT Duration := ⟨fun a b => a.nanos < b.nanos⟩

instance (a b : Duration) : Decidable (a < b) := inferInstanceAs (Decidable (a.nanos < b.nanos))

/-- `n` units of `scale` parts each, as a decimal number of units: the fraction
is exact and has no zeros at its end. -/
def decimal (n scale places : Nat) : String :=
  let fraction := n % scale
  let digits := (Nat.repr fraction).toList
  let padded := List.replicate (places - digits.length) '0' ++ digits
  let shown := (padded.reverse.dropWhile (· = '0')).reverse
  Nat.repr (n / scale) ++ (if fraction = 0 then "" else "." ++ String.ofList shown)

/-- The span in the largest unit that it has a whole one of. -/
def display (d : Duration) : String :=
  if perSecond ≤ d.nanos then decimal d.nanos perSecond 9 ++ "s"
  else if 1000000 ≤ d.nanos then decimal d.nanos 1000000 6 ++ "ms"
  else if 1000 ≤ d.nanos then decimal d.nanos 1000 3 ++ "µs"
  else Nat.repr d.nanos ++ "ns"

end Duration

end TableGateway
