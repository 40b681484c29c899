/-
Why a JSON value is not of the type asked for.
-/
import TableGateway.Json.Basic
import TableGateway.Number.Layout
import TableGateway.Text.Quoted

namespace TableGateway

/-- What a decoder came upon, as far as an error tells of it. -/
inductive Found where
  | null
  | bool (b : Bool)
  | integer (n : Int)
  | float (x : Binary64)
  | string (s : String)
  | sequence
  | map
deriving DecidableEq

namespace Found

/-- What a JSON value is found to be. -/
def ofJson : Json → Found
  | .null => null
  | .bool b => bool b
  | .integer n => integer n.val
  | .float x => float x.val
  | .string s => string s
  | .array _ => sequence
  | .object _ => map

/-- The words for it in an error message. -/
def words : Found → String
  | null => "null"
  | bool b => "boolean `" ++ (if b then "true" else "false") ++ "`"
  | integer n => "integer `" ++ Int.repr n ++ "`"
  | float x => "floating point `" ++ Layout.json.write x ++ "`"
  | string s => "string " ++ Text.quoted s
  | sequence => "sequence"
  | map => "map"

end Found

/-- A reason for which a JSON value cannot be decoded. -/
inductive DecodeError where
  | wrongType (found : Found) (expected : String)
  /-- An integer that the expected type cannot hold. -/
  | outOfRange (n : Int) (expected : String)
  /-- An object of no or several fields where one name is expected. -/
  | notOneName
  | missingField (name : String)
  | unknownVariant (name : String) (known : List String)
  /-- None of the alternatives of the named type fits. -/
  | noAlternative (name : String)
  /-- An array that ends before the field at this place. -/
  | tooShort (place : Nat) (expected : String)
  /-- An array of this length, with items beyond the last field. -/
  | tooLong (length : Nat)
deriving DecidableEq

namespace DecodeError

/-- The names that are known, between backquotes. -/
def knownNames : List String → String
  | [] => "there are no variants"
  | [a] => "expected `" ++ a ++ "`"
  | [a, b] => "expected `" ++ a ++ "` or `" ++ b ++ "`"
  | names => "expected one of " ++ ", ".intercalate (names.map fun a => "`" ++ a ++ "`")

/-- The error in words. -/
def message : DecodeError → String
  | wrongType found expected => "invalid type: " ++ found.words ++ ", expected " ++ expected
  | outOfRange n expected =>
      "invalid value: " ++ (Found.integer n).words ++ ", expected " ++ expected
  | notOneName => "invalid value: map, expected map with a single key"
  | missingField name => "missing field `" ++ name ++ "`"
  | unknownVariant name known => "unknown variant `" ++ name ++ "`, " ++ knownNames known
  | noAlternative name => "data did not match any variant of untagged enum " ++ name
  | tooShort place expected => "invalid length " ++ Nat.repr place ++ ", expected " ++ expected
  | tooLong length =>
      "invalid length " ++ Nat.repr length ++ ", expected fewer elements in array"

end DecodeError

end TableGateway
