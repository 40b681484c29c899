/-
JSON values.

Integers and floating-point numbers are different values, as `1` and `1.0` are
different texts.  Integers are those that fit 64 bits with or without a sign,
and floating-point numbers are finite; both bounds are part of the type, so
every `Json` has a text that reads back as itself.
-/
import TableGateway.Number.Binary64
import TableGateway.SortedMap

namespace TableGateway

/-- An integer that fits 64 bits, signed or unsigned. -/
structure WideInt where
  val : Int
  lower : -0x8000000000000000 ≤ val
  upper : val < 0x10000000000000000
deriving DecidableEq

namespace WideInt

def ofInt64 (n : Int64) : WideInt :=
  ⟨n.toInt, n.le_toInt, Int.lt_trans n.toInt_lt (by decide)⟩

def ofUInt64 (n : UInt64) : WideInt :=
  ⟨n.toNat, by omega, by have := n.toNat_lt; omega⟩

/-- The integer as a wide one, if it is in range. -/
def ofInt? (n : Int) : Option WideInt :=
  if h : -0x8000000000000000 ≤ n ∧ n < 0x10000000000000000 then some ⟨n, h.1, h.2⟩ else none

end WideInt

/-- A floating-point number that is neither infinite nor NaN. -/
structure FiniteFloat where
  val : Binary64
  finite : val.isFinite = true
deriving DecidableEq

namespace FiniteFloat

def ofBinary64? (x : Binary64) : Option FiniteFloat :=
  if h : x.isFinite = true then some ⟨x, h⟩ else none

end FiniteFloat

/-- A JSON value.  The fields of an object stand in key order and have
different names; `Json.ofFields` makes such an object. -/
inductive Json where
  | null
  | bool (b : Bool)
  | integer (n : WideInt)
  | float (x : FiniteFloat)
  | string (s : String)
  | array (items : List Json)
  | object (fields : List (String × Json))
deriving Inhabited

namespace Json

/-- The object with the given fields; of equal names the last field stays. -/
def ofFields (fields : List (String × Json)) : Json :=
  .object (Entries.sort fields)

def ofInt64 (n : Int64) : Json := .integer (.ofInt64 n)

def ofUInt64 (n : UInt64) : Json := .integer (.ofUInt64 n)

/-- A natural number of at most 64 bits; the remainder of a larger one. -/
def ofNat (n : Nat) : Json := .ofUInt64 (UInt64.ofNat n)

/-- A floating-point number; what JSON cannot write is null. -/
def ofBinary64 (x : Binary64) : Json :=
  match FiniteFloat.ofBinary64? x with
  | some x => .float x
  | none => .null

def isNull : Json → Bool
  | .null => true
  | _ => false

/-- The field of that name, when the value is an object that has it. -/
def field? (name : String) : Json → Option Json
  | .object fields => fields.lookup name
  | _ => none

/-- The text, when the value is a string. -/
def string? : Json → Option String
  | .string s => some s
  | _ => none

end Json

end TableGateway
