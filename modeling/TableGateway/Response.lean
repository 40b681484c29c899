/-
Responses of the gateway, and the results that callers get.

A `Response` is what came back from one call.  A `Result` is the same outcome
with one rule: data only when the call succeeded, an error only when it failed.
-/
import TableGateway.Decode.Record
import TableGateway.Json.Reader

namespace TableGateway

/-- The outcome of one call. -/
structure Response where
  /-- Whether the status is one of success. -/
  ok : Bool
  /-- The status, or 0 when nothing came back. -/
  status : UInt16
  data : Option Json
  error : Option String
  /-- The body as it came. -/
  raw : Json

namespace Response

/-- The call did not reach the gateway, or its answer did not come back. -/
def networkFailure (message : String) : Response :=
  { ok := false, status := 0, data := none, error := some message, raw := .null }

/-- The statuses of success. -/
def isSuccess (status : UInt16) : Bool :=
  200 ≤ status.toNat && status.toNat < 300

/-- The text of a field that is a string and not empty. -/
def textField? (name : String) (body : Json) : Option String :=
  ((body.field? name).bind Json.string?).filter (· ≠ "")

/-- What a body says about a failure. -/
def reported (body : Json) : Option String :=
  (textField? "error" body).or (textField? "message" body)

/-- The response of a status and a body.  The body of a success is data whatever
its fields are called. -/
def ofBody (status : UInt16) (body : Json) : Response where
  ok := isSuccess status
  status := status
  data := if body.isNull then none else some body
  error := if isSuccess status then none else reported body
  raw := body

/-- The value of a body's text: nothing is null, and what is not JSON is a string. -/
def bodyOfText (text : String) : Json :=
  if text = "" then .null else (Json.read? text).getD (.string text)

def orNull (v : Option Json) : Json := v.getD .null

/-- The fields in declaration order; what is absent is null. -/
def fields (r : Response) : List (String × Json) :=
  [("ok", .bool r.ok), ("status", .ofNat r.status.toNat), ("data", orNull r.data),
    ("error", orNull (r.error.map Json.string)), ("raw", r.raw)]

def record : Record Response :=
  (((((Record.pure Response.mk).add (.required "ok" Decode.bool)).add
    (.required "status" Decode.uint16)).add (.positional "data" Decode.value)).add
    (.positional "error" Decode.string)).add (.required "raw" Decode.value)

def decode : Decoder Response := record.decode "GatewayResponse"

end Response

/-- What a caller gets: data or an error, with the status and the body. -/
structure Result (α : Type) where
  data : Option α
  error : Option String
  status : UInt16
  raw : Json

namespace Result

variable {α β : Type}

def isOk (r : Result α) : Bool := r.error.isNone

/-- Changes the data and nothing else. -/
def map (f : α → β) (r : Result α) : Result β :=
  { r with data := r.data.map f }

/-- The result of a response.  A failure has no data, and an error even when
the gateway reported none. -/
def ofResponse (r : Response) : Result Json :=
  if r.ok then { data := r.data, error := none, status := r.status, raw := r.raw }
  else
    { data := none
      error := some (r.error.getD
        ("gateway request failed with status " ++ Nat.repr r.status.toNat))
      status := r.status
      raw := r.raw }

/-- The first item of an array; other data stays as it is. -/
def firstItem : Option Json → Option Json
  | some (.array items) => items.head?
  | v => v

/-- One row in place of an array of rows, none if the array is empty. -/
def single (r : Result Json) : Result Json :=
  { r with data := firstItem r.data }

/-- Decodes the data; no data needs no decoding. -/
def decode (d : Decoder α) (r : Result Json) : Except DecodeError (Result α) :=
  match r.data with
  | none => .ok { r with data := none }
  | some v =>
      match d v with
      | .error e => .error e
      | .ok a => .ok { r with data := some a }

/-- The fields in declaration order, the data in the given JSON form; what is
absent is null. -/
def fieldsBy (toJson : α → Json) (r : Result α) : List (String × Json) :=
  [("data", Response.orNull (r.data.map toJson)),
    ("error", Response.orNull (r.error.map Json.string)),
    ("status", .ofNat r.status.toNat), ("raw", r.raw)]

def fields (r : Result Json) : List (String × Json) := r.fieldsBy id

/-- How a result is read, by how its data is. -/
def recordOf (d : Decoder α) : Record (Result α) :=
  ((((Record.pure Result.mk).add (.positional "data" d)).add
    (.positional "error" Decode.string)).add (.required "status" Decode.uint16)).add
    (.required "raw" Decode.value)

/-- Reads a result from its own JSON form. -/
def decodeBy (d : Decoder α) : Decoder (Result α) := (recordOf d).decode "QueryResult"

/-- Reads a result whose data may be any value. -/
def decodeSelf : Decoder (Result Json) := decodeBy Decode.value

end Result

end TableGateway
