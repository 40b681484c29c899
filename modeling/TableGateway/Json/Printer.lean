/-
The compact text of JSON values: no blanks, and only the escapes that JSON
demands.
-/
import TableGateway.Json.Basic
import TableGateway.Number.Layout

namespace TableGateway

namespace Json

/-- The digits of a control character's code, four and lowercase. -/
def hexOf (n : Nat) : List Char :=
  let digit (d : Nat) : Char := (Nat.toDigits 16 (d % 16)).headD '0'
  [digit (n / 4096), digit (n / 256), digit (n / 16), digit n]

/-- A character inside a string literal: quotes, backslashes and control
characters are escaped, all others stand for themselves. -/
def escape (c : Char) : List Char :=
  if c = '"' then ['\\', '"']
  else if c = '\\' then ['\\', '\\']
  else if c = '\x08' then ['\\', 'b']
  else if c = '\t' then ['\\', 't']
  else if c = '\n' then ['\\', 'n']
  else if c = '\x0c' then ['\\', 'f']
  else if c = '\r' then ['\\', 'r']
  else if c.toNat < 32 then '\\' :: 'u' :: hexOf c.toNat
  else [c]

/-- A string literal. -/
def quote (s : String) : String :=
  String.ofList ('"' :: (s.toList.flatMap escape ++ ['"']))

mutual

/-- The text of a value. -/
def text : Json → String
  | .null => "null"
  | .bool b => if b then "true" else "false"
  | .integer n => Int.repr n.val
  | .float x => Layout.json.write x.val
  | .string s => quote s
  | .array items => "[" ++ itemsText true items ++ "]"
  | .object fields => "\x7b" ++ fieldsText true fields ++ "\x7d"

/-- The items of an array, a comma before all but the first. -/
def itemsText (first : Bool) : List Json → String
  | [] => ""
  | v :: rest => (if first then "" else ",") ++ text v ++ itemsText false rest

/-- The fields of an object, a comma before all but the first. -/
def fieldsText (first : Bool) : List (String × Json) → String
  | [] => ""
  | (k, v) :: rest =>
      (if first then "" else ",") ++ quote k ++ ":" ++ text v ++ fieldsText false rest

end

/-- The text of an object whose fields are written in the order given. -/
def textInOrder (fields : List (String × Json)) : String :=
  text (.object fields)

end Json

end TableGateway
