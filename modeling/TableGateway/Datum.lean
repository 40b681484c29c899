/-
Row values as callers hold them, before they are JSON.

A `Datum` may be what JSON cannot express: integers of any size, numbers that
are not finite, maps whose keys are not text.  `Datum.toJson` writes it as JSON
or says why that cannot be done.
-/
import TableGateway.Json.Basic
import TableGateway.Number.Layout

namespace TableGateway

/-- A value to be stored. -/
inductive Datum where
  /-- No value. -/
  | none
  | bool (b : Bool)
  | integer (n : Int)
  | float (x : Binary64)
  | text (s : String)
  | tuple (items : List Datum)
  | map (entries : List (Datum × Datum))
  /-- A value that is JSON already. -/
  | json (v : Json)

namespace Datum

/-- Why a value has no JSON form. -/
inductive Fault where
  /-- A key that is neither text nor a number nor a truth value. -/
  | keyNotText
  /-- A key that is infinite or NaN. -/
  | keyNotFinite
  /-- An integer that does not fit 64 bits. -/
  | integerTooWide
deriving DecidableEq

namespace Fault

def message : Fault → String
  | keyNotText => "key must be a string"
  | keyNotFinite => "float key must be finite"
  | integerTooWide => "number out of range"

end Fault

/-- The text of a key: numbers and truth values are keys by their JSON text. -/
def keyText : Datum → Except Fault String
  | text s => .ok s
  | json (.string s) => .ok s
  | bool b => .ok (if b then "true" else "false")
  | integer n => .ok (Int.repr n)
  | float x => if x.isFinite then .ok (Layout.json.write x) else .error .keyNotFinite
  | _ => .error .keyNotText

mutual

/-- The JSON form of a value. -/
def toJson : Datum → Except Fault Json
  | none => .ok .null
  | bool b => .ok (.bool b)
  | integer n =>
      match WideInt.ofInt? n with
      | some i => .ok (.integer i)
      | Option.none => .error .integerTooWide
  | float x => .ok (.ofBinary64 x)
  | text s => .ok (.string s)
  | tuple items => (itemsJson items).map .array
  | map entries => (entriesJson entries).map .ofFields
  | json v => .ok v

/-- The JSON forms of some values, up to the first that has none. -/
def itemsJson : List Datum → Except Fault (List Json)
  | [] => .ok []
  | v :: rest =>
      match toJson v with
      | .error e => .error e
      | .ok j => (itemsJson rest).map (j :: ·)

/-- The fields of a map, each key before its value. -/
def entriesJson : List (Datum × Datum) → Except Fault (List (String × Json))
  | [] => .ok []
  | (k, v) :: rest =>
      match keyText k with
      | .error e => .error e
      | .ok name =>
          match toJson v with
          | .error e => .error e
          | .ok j => (entriesJson rest).map ((name, j) :: ·)

end

end Datum

end TableGateway
