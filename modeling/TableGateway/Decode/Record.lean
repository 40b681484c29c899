/-
Decoding records: structures whose fields have names and an order.

A `Record` lists the fields of a structure in the order of their declaration
and says how to put a value together from them.  A record is read from an
object by name or from an array by position.  Faults are reported in the order
in which a reader meets them: first a field that cannot be decoded, in the
order of the JSON text, then a field that is missing, in declaration order.
-/
import TableGateway.Decode.Basic

namespace TableGateway

/-- When a field may be absent. -/
inductive Presence where
  | required
  /-- It may be missing from an object and at the end of an array. -/
  | optional
  /-- It may be missing from an object, but an array has to give it. -/
  | positional
deriving DecidableEq

/-- A field of a record: its name, when it may be absent, and whether a value
given for it can be decoded. -/
structure RecordField where
  name : String
  presence : Presence
  check : Json → Except DecodeError Unit

/-- How the fields of a record make a value of a type. -/
structure Record (α : Type) where
  fields : List RecordField
  /-- The value, from what is given for each name. -/
  build : (String → Option Json) → Except DecodeError α

namespace Record

variable {α β : Type}

/-- The record without fields. -/
def pure (a : α) : Record α := ⟨[], fun _ => .ok a⟩

/-- A record with one more field at the end. -/
def add (r : Record (α → β)) (field : Record α) : Record β where
  fields := r.fields ++ field.fields
  build get :=
    match r.build get with
    | .error e => .error e
    | .ok f =>
        match field.build get with
        | .error e => .error e
        | .ok a => .ok (f a)

/-- A field that has to be given. -/
def required (name : String) (d : Decoder α) : Record α where
  fields := [⟨name, .required, fun v => (d v).map fun _ => ()⟩]
  build get :=
    match get name with
    | some v => d v
    | none => .error (.missingField name)

/-- A field of the given presence that is `none` when it is absent or null. -/
def absentOr (presence : Presence) (name : String) (d : Decoder α) : Record (Option α) where
  fields := [⟨name, presence, fun v => (Decode.nullable d v).map fun _ => ()⟩]
  build get :=
    match get name with
    | some v => Decode.nullable d v
    | none => .ok none

/-- A field that is `none` when it is absent or null. -/
def optional (name : String) (d : Decoder α) : Record (Option α) :=
  absentOr .optional name d

/-- A field that is `none` when it is null or missing from an object; an array
has to give it. -/
def positional (name : String) (d : Decoder α) : Record (Option α) :=
  absentOr .positional name d

/-- Checks the fields of an object in their order; unknown names are ignored. -/
def checkFields (fields : List RecordField) : List (String × Json) → Except DecodeError Unit
  | [] => .ok ()
  | (k, v) :: rest =>
      match fields.find? (·.name = k) with
      | none => checkFields fields rest
      | some f =>
          match f.check v with
          | .error e => .error e
          | .ok _ => checkFields fields rest

/-- Checks the items of an array against the fields in declaration order. -/
def checkItems (expected : String) (place : Nat) :
    List RecordField → List Json → Except DecodeError Unit
  | [], [] => .ok ()
  | [], extra => .error (.tooLong (place + extra.length))
  | f :: fs, [] =>
      if f.presence = .optional then checkItems expected (place + 1) fs []
      else .error (.tooShort place expected)
  | f :: fs, v :: vs =>
      match f.check v with
      | .error e => .error e
      | .ok _ => checkItems expected (place + 1) fs vs

/-- The words for a structure of a name and a number of fields. -/
def shape (r : Record α) (name : String) : String :=
  "struct " ++ name ++ " with " ++ Nat.repr r.fields.length ++ " elements"

/-- Decodes an object by name or an array by position. -/
def decode (r : Record α) (name : String) : Decoder α
  | .object given =>
      match checkFields r.fields given with
      | .error e => .error e
      | .ok _ => r.build fun name => given.lookup name
  | .array given =>
      match checkItems (r.shape name) 0 r.fields given with
      | .error e => .error e
      | .ok _ => r.build fun name => ((r.fields.map RecordField.name).zip given).lookup name
  | v => Decode.wrong v ("struct " ++ name)

end Record

end TableGateway
