/-
What observers are told of a call.

A `CallLog` describes the request with its credentials blanked out, and a
`ResponseLog` sums up the response.  The three kinds of `Event` follow a call
through: it starts, it may turn out slow, and it completes.
-/
import TableGateway.Duration
import TableGateway.Headers
import TableGateway.Payload
import TableGateway.Response
import TableGateway.Text.Cut

namespace TableGateway

/-- A call about to be made. -/
structure CallLog where
  endpoint : Endpoint
  payload : Json
  /-- The headers, credentials blanked out. -/
  headers : Headers

namespace CallLog

/-- The headers that hold credentials. -/
def secretNames : List String := ["apikey", "x-api-key", "x-supabase-key"]

/-- What stands in place of a credential. -/
def blank : String := "***"

/-- Blanks out the values of credential headers; their names are compared
without regard to the case of ASCII letters. -/
def redact (headers : Headers) : Headers :=
  headers.mapValues fun name value =>
    if name.toLower ∈ secretNames then blank else value

/-- The log of a call with the given headers. -/
def make (endpoint : Endpoint) (payload : Json) (headers : Headers) : CallLog :=
  { endpoint, payload, headers := redact headers }

/-- The log of a request under the options of its call. -/
def ofRequest (r : Request) (o : Options) : CallLog :=
  make r.endpoint r.toJson (.ofOptions o)

/-- The table that the payload names. -/
def table? (c : CallLog) : Option String :=
  (c.payload.field? "table_name").bind Json.string?

/-- The table, or a dash when none is named. -/
def tableOrDash (c : CallLog) : String := c.table?.getD "-"

end CallLog

/-- The outcome of a call, summed up. -/
structure ResponseLog where
  status : UInt16
  ok : Bool
  error : Option String
  elapsed : Duration
deriving DecidableEq

namespace ResponseLog

/-- The most bytes of an error text that are kept. -/
def maxErrorBytes : Nat := 512

/-- Sums up a response. -/
def make (r : Response) (elapsed : Duration) : ResponseLog where
  status := r.status
  ok := r.ok && r.error.isNone
  error := r.error.map (Text.abridge maxErrorBytes)
  elapsed := elapsed

/-- The status, and the error if there is one. -/
def display (l : ResponseLog) : String :=
  match l.error with
  | some e => Nat.repr l.status.toNat ++ " error: " ++ e
  | none => Nat.repr l.status.toNat ++ " ok"

end ResponseLog

/-- What happens to a call. -/
inductive Event where
  | start (call : CallLog)
  | slow (call : CallLog) (elapsed : Duration)
  | complete (call : CallLog) (response : ResponseLog)

end TableGateway
