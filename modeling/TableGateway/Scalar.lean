/-
Scalars: the single values that filters compare columns with.

A `Scalar` has a display text, a JSON form and a decoder.  An unsigned integer
is kept apart from a signed one only where the signed type cannot hold it;
every conversion from a Lean type follows that rule.
-/
import TableGateway.Decode.Basic
import TableGateway.Number.Binary32

namespace TableGateway

/-- A single value. -/
inductive Scalar where
  | null
  | bool (b : Bool)
  | int (n : Int64)
  /-- Meant for integers of `2 ^ 63` and above. -/
  | uint (n : UInt64)
  | float (x : Binary64)
  | text (s : String)
deriving DecidableEq

namespace Scalar

def isNull : Scalar → Bool
  | null => true
  | _ => false

/-- The scalar as it reads in an expression: text as it is, and a
floating-point number without exponent. -/
def display : Scalar → String
  | null => "null"
  | bool b => if b then "true" else "false"
  | int n => Int.repr n.toInt
  | uint n => Nat.repr n.toNat
  | float x => Layout.plain.write x
  | text s => s

/-- The JSON form; a number that JSON cannot write is null. -/
def toJson : Scalar → Json
  | null => .null
  | bool b => .bool b
  | int n => .ofInt64 n
  | uint n => .ofUInt64 n
  | float x => .ofBinary64 x
  | text s => .string s

/-- The kinds of scalars are tried in the order in which they are declared. -/
def decode : Decoder Scalar :=
  Decode.firstOf "Scalar"
    [Decode.made (fun _ => null) Decode.unit, Decode.made bool Decode.bool,
      Decode.made int Decode.int64, Decode.made uint Decode.uint64, Decode.made float Decode.float,
      Decode.made text Decode.string]

/-- An unsigned integer, taken as signed where it fits. -/
def ofUnsigned (n : UInt64) : Scalar :=
  if n.toNat < 0x8000000000000000 then int n.toInt64 else uint n

end Scalar

/-- The types whose values can be given for a scalar. -/
class ToScalar (α : Type) where
  toScalar : α → Scalar

export ToScalar (toScalar)

instance : ToScalar Scalar := ⟨id⟩
instance : ToScalar Bool := ⟨.bool⟩
instance : ToScalar Int8 := ⟨fun n => .int n.toInt64⟩
instance : ToScalar Int16 := ⟨fun n => .int n.toInt64⟩
instance : ToScalar Int32 := ⟨fun n => .int n.toInt64⟩
instance : ToScalar Int64 := ⟨.int⟩
instance : ToScalar ISize := ⟨fun n => .int n.toInt64⟩
instance : ToScalar UInt8 := ⟨fun n => .int (Int64.ofNat n.toNat)⟩
instance : ToScalar UInt16 := ⟨fun n => .int (Int64.ofNat n.toNat)⟩
instance : ToScalar UInt32 := ⟨fun n => .int (Int64.ofNat n.toNat)⟩
instance : ToScalar UInt64 := ⟨.ofUnsigned⟩
instance : ToScalar USize := ⟨fun n => .ofUnsigned n.toUInt64⟩
instance : ToScalar Binary32 := ⟨fun x => .float x.toBinary64⟩
instance : ToScalar Binary64 := ⟨.float⟩
instance : ToScalar String := ⟨.text⟩

/-- No value is null. -/
instance {α : Type} [ToScalar α] : ToScalar (Option α) :=
  ⟨fun | none => .null | some a => toScalar a⟩

end TableGateway
