/-
Errors that arise before anything is sent.

A failure of the gateway or of the network is no error in this sense: it is
part of the result of a call.
-/
import TableGateway.Decode.Error

namespace TableGateway

/-- An error raised by the client itself. -/
inductive Error where
  /-- A request that is refused for what it asks. -/
  | validation (reason : String)
  /-- A row or a value that has no JSON form, or a JSON value of the wrong type. -/
  | serialization (reason : String)
  /-- The HTTP client cannot be set up. -/
  | http (reason : String)
  | other (reason : String)
deriving DecidableEq

namespace Error

def message : Error → String
  | validation reason => "Validation error: " ++ reason
  | serialization reason => "Serialization error: " ++ reason
  | http reason => "HTTP client error: " ++ reason
  | other reason => reason

def isValidation : Error → Bool
  | validation _ => true
  | _ => false

def isSerialization : Error → Bool
  | serialization _ => true
  | _ => false

/-- A decoder's error as an error of the client. -/
def ofDecode (e : DecodeError) : Error := serialization e.message

/-- A delete that names neither a row nor a filter. -/
def unboundedDelete : Error :=
  validation <|
    "delete requires a resource_id either via eq(\"resource_id\", ...) or " ++
      "DeleteOptions::resource_id, or at least one filter"

end Error

end TableGateway
