/-
Decoders: from JSON values to values of other types.
-/
import TableGateway.Decode.Error

namespace TableGateway

/-- A way to take a JSON value for a value of a type, or to say why it is none. -/
abbrev Decoder (α : Type) := Json → Except DecodeError α

namespace Decode

/-- Refuses a value as being of the wrong type. -/
def wrong {α : Type} (v : Json) (expected : String) : Except DecodeError α :=
  .error (.wrongType (.ofJson v) expected)

/-- Any value, as it is. -/
def value : Decoder Json := .ok

/-- Nothing but null. -/
def unit : Decoder Unit
  | .null => .ok ()
  | v => wrong v "unit"

def bool : Decoder Bool
  | .bool b => .ok b
  | v => wrong v "a boolean"

def string : Decoder String
  | .string s => .ok s
  | v => wrong v "a string"

/-- An integer in the range from `low` to below `high`, of a type with this name. -/
def bounded (name : String) (low high : Int) : Decoder Int
  | .integer n => if low ≤ n.val ∧ n.val < high then .ok n.val else .error (.outOfRange n.val name)
  | v => wrong v name

def int64 : Decoder Int64 := fun v =>
  (bounded "i64" (-0x8000000000000000) 0x8000000000000000 v).map Int64.ofInt

def uint64 : Decoder UInt64 := fun v =>
  (bounded "u64" 0 0x10000000000000000 v).map fun n => UInt64.ofNat n.toNat

def uint16 : Decoder UInt16 := fun v =>
  (bounded "u16" 0 0x10000 v).map fun n => UInt16.ofNat n.toNat

def uint8 : Decoder UInt8 := fun v =>
  (bounded "u8" 0 0x100 v).map fun n => UInt8.ofNat n.toNat

/-- A floating-point number; an integer is taken for the nearest one. -/
def float : Decoder Binary64
  | .float x => .ok x.val
  | .integer n => .ok (.ofInt n.val)
  | v => wrong v "f64"

/-- Decodes the items one after the other, up to the first that fails. -/
def items {α : Type} (d : Decoder α) : List Json → Except DecodeError (List α)
  | [] => .ok []
  | v :: rest =>
      match d v with
      | .error e => .error e
      | .ok a =>
          match items d rest with
          | .error e => .error e
          | .ok as => .ok (a :: as)

/-- An array whose items are all of a type. -/
def list {α : Type} (d : Decoder α) : Decoder (List α)
  | .array vs => items d vs
  | v => wrong v "a sequence"

/-- Decodes the fields one after the other, up to the first that fails. -/
def fieldValues {α : Type} (d : Decoder α) :
    List (String × Json) → Except DecodeError (List (String × α))
  | [] => .ok []
  | (k, v) :: rest =>
      match d v with
      | .error e => .error e
      | .ok a =>
          match fieldValues d rest with
          | .error e => .error e
          | .ok as => .ok ((k, a) :: as)

/-- An object of any field names whose values are all of a type. -/
def map {α : Type} (d : Decoder α) : Decoder (List (String × α))
  | .object fields => fieldValues d fields
  | v => wrong v "a map"

/-- Null, for no value, or a value of the type. -/
def nullable {α : Type} (d : Decoder α) : Decoder (Option α)
  | .null => .ok none
  | v => (d v).map some

/-- The variant with this name. -/
def variant {α : Type} (known : List (String × α)) (name : String) : Except DecodeError α :=
  match known.lookup name with
  | some a => .ok a
  | none => .error (.unknownVariant name (known.map Prod.fst))

/-- One of several names, as a string or as the only field of an object whose
value is null. -/
def oneOf {α : Type} (known : List (String × α)) : Decoder α
  | .string s => variant known s
  | .object [(k, v)] => do
      let a ← variant known k
      let _ ← unit v
      return a
  | .object _ => .error .notOneName
  | v => wrong v "string or map"

/-- Decodes a value and makes something of it. -/
def made {α β : Type} (f : α → β) (d : Decoder α) : Decoder β := fun v => (d v).map f

/-- The first of several decoders that takes the value; the type that they all
decode has this name. -/
def firstOf {α : Type} (name : String) : List (Decoder α) → Decoder α
  | [], _ => .error (.noAlternative name)
  | d :: rest, v =>
      match d v with
      | .ok a => .ok a
      | .error _ => firstOf name rest v

end Decode

end TableGateway
