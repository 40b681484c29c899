/-
Calls over HTTP.

What a call hands to the network is a function of its request and its options, and its
response is a function of what comes back.  A call whose headers cannot be sent is over
before anything is handed over.
-/
import TableGateway.Error
import TableGateway.Http.Network
import TableGateway.Observe.Trace
import TableGateway.Transport

namespace TableGateway.Http

/-- What carries calls over HTTP: a client of the network, and how it is set up. -/
structure Carrier (κ : Type) where
  client : κ
  config : Config

/-- The network, and the trace events so far, first one first. -/
structure World (ν : Type) where
  network : ν
  traces : List Trace := []

/-- A call on its way: its headers cannot be sent, or the network has its message. -/
inductive Ticket (υ : Type) where
  | refused (fault : FieldFault)
  | sent (endpoint : Endpoint) (ticket : υ)

/-- The method of a call to an endpoint. -/
def methodOf : Endpoint → String
  | .fetch | .update => "POST"
  | .insert => "PUT"
  | .delete => "DELETE"

namespace World

variable {ν : Type}

/-- Adds a trace event of level `debug`. -/
def trace (s : World ν) (fields : List (String × String)) : World ν :=
  { s with traces := s.traces ++ [⟨.debug, fields⟩] }

/-- Traces that a message is about to go out. -/
def traceSending (s : World ν) (e : Endpoint) (url : String) : World ν :=
  s.trace [("endpoint", e.display), ("url", url), ("message", "sending gateway request")]

/-- Traces the outcome of a call. -/
def traceResponse (s : World ν) (e : Endpoint) (r : Response) : World ν :=
  s.trace
    [("endpoint", e.display), ("status", Nat.repr r.status.toNat),
      ("ok", Tracer.boolText r.ok), ("error", r.error.getD "-"), ("message", "gateway response")]

end World

namespace Carrier

variable {κ ν υ : Type}

/-- A carrier with a client that is built for it. -/
def create (net : Network κ ν υ) (config : Config) : Except Error (Carrier κ) :=
  match net.build config.toSettings with
  | .ok client => .ok { client, config }
  | .error message => .error (.http message)

/-- The message of a call with the given headers. -/
def outgoing (x : Carrier κ) (r : Request) (o : Options) (fields : Headers) : Outgoing where
  method := methodOf r.endpoint
  url := x.config.url r.endpoint o
  headers := fields
  body := r.wireText

section

variable (net : Network κ ν υ)

/-- Takes a request.  Headers that cannot be sent end the call before anything
is sent or traced. -/
def take (x : Carrier κ) (r : Request) (o : Options) (s : World ν) : World ν × Ticket υ :=
  match net.rules.fieldsOf (.ofOptions o) with
  | .error fault => (s, .refused fault)
  | .ok fields =>
      let out := x.outgoing r o fields
      let s := s.traceSending r.endpoint out.url
      let (network, ticket) := net.send x.client out s.network
      ({ s with network }, .sent r.endpoint ticket)

/-- The response of a call.  That of a call whose headers cannot be sent is no news to
the network. -/
def finish : Ticket υ → World ν → World ν × Response
  | .refused fault, s => (s, .networkFailure (net.rules.message fault))
  | .sent e ticket, s =>
      let (network, reception) := net.finish ticket s.network
      let response := reception.response
      (({ s with network }).traceResponse e response, response)

/-- The transport over HTTP. -/
def transport (x : Carrier κ) : Transport (World ν) (Ticket υ) where
  toEndpoints := .uniform (x.take net)
  polls
    | .refused _ => 0
    | .sent _ ticket => net.polls ticket
  elapsed
    | .refused _ => .zero
    | .sent _ ticket => net.elapsed ticket
  finish := finish net

end

end Carrier

end TableGateway.Http
