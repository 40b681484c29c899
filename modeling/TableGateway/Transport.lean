/-
Transports: what carries a request to the gateway and a response back.

A call is made of three moments.  An operation is called, which may change the
state that the transport works on and hands out a future.  The first poll of the
future may change the state again and hands out a ticket.  After some further
polls the ticket is turned in for the response, which may change the state once
more.  A future that is not polled goes no further, and a ticket of a call that is
dropped is never turned in.
-/
import TableGateway.Duration
import TableGateway.Payload
import TableGateway.Response

namespace TableGateway

/-- A call of an operation on a state of type `σ`: what is done at once, and what the
first poll of its future does, which hands out a ticket of type `τ`. -/
abbrev Invocation (σ τ : Type) : Type := σ → σ × (σ → σ × τ)

namespace Invocation

variable {σ τ : Type}

/-- Nothing is done before the first poll. -/
def later (take : σ → σ × τ) : Invocation σ τ := fun s => (s, take)

/-- A call whose future is polled at once. -/
def polled (i : Invocation σ τ) : σ → σ × τ := fun s =>
  let (s, first) := i s
  first s

end Invocation

/-- One operation for each endpoint. -/
structure Endpoints (σ τ : Type) where
  fetch : Payload.Fetch → Options → Invocation σ τ
  insert : Payload.Insert → Options → Invocation σ τ
  update : Payload.Update → Options → Invocation σ τ
  delete : Payload.Delete → Options → Invocation σ τ

namespace Endpoints

variable {σ τ : Type}

/-- A call of the operation that a request asks for. -/
def invoke (t : Endpoints σ τ) : Request → Options → Invocation σ τ
  | .fetch p => t.fetch p
  | .insert p => t.insert p
  | .update p => t.update p
  | .delete p => t.delete p

/-- The call with its first poll. -/
def dispatch (t : Endpoints σ τ) (r : Request) (o : Options) : σ → σ × τ :=
  (t.invoke r o).polled

/-- The same way of calling for all requests. -/
def ofInvoke (invoke : Request → Options → Invocation σ τ) : Endpoints σ τ where
  fetch p := invoke (.fetch p)
  insert p := invoke (.insert p)
  update p := invoke (.update p)
  delete p := invoke (.delete p)

/-- The same way of taking all requests, at the first poll. -/
def uniform (take : Request → Options → σ → σ × τ) : Endpoints σ τ :=
  ofInvoke fun r o => .later (take r o)

theorem invoke_ofInvoke (invoke : Request → Options → Invocation σ τ) :
    ∀ r : Request, (ofInvoke invoke).invoke r = invoke r
  | .fetch _ => rfl
  | .insert _ => rfl
  | .update _ => rfl
  | .delete _ => rfl

theorem invoke_uniform (take : Request → Options → σ → σ × τ) (r : Request) (o : Options) :
    (uniform take).invoke r o = .later (take r o) :=
  congrFun (invoke_ofInvoke _ r) o

theorem dispatch_uniform (take : Request → Options → σ → σ × τ) (r : Request) :
    (uniform take).dispatch r = take r :=
  funext fun o => congrArg Invocation.polled (invoke_uniform take r o)

end Endpoints

/-- A transport has an operation for each endpoint and one for any request, which by
default awaits the others. -/
structure Transport (σ τ : Type) extends Endpoints σ τ where
  submit : Request → Options → Invocation σ τ := fun r o => .later (toEndpoints.dispatch r o)
  /-- How many polls after the first find the call unfinished. -/
  polls : τ → Nat
  /-- The time from the first poll to the response. -/
  elapsed : τ → Duration
  /-- Turns a ticket in for the response. -/
  finish : τ → σ → σ × Response

namespace Transport

variable {σ τ μ : Type}

/-- Submits a request and polls once. -/
def send (t : Transport σ τ) (r : Request) (o : Options) : σ → σ × τ := (t.submit r o).polled

/-- A transport as its several owners see it: the operations of the endpoints
are passed on, and a request of any kind goes by its endpoint. -/
def shared (t : Transport σ τ) : Transport σ τ :=
  { t with submit := fun r o => .later (t.dispatch r o) }

/-- A change to the one part of a state, the other part left alone. -/
def alongside (f : σ → σ × τ) (s : σ × μ) : (σ × μ) × τ :=
  let (inner, a) := f s.1
  ((inner, s.2), a)

/-- A call in a world with a part that it does not touch. -/
def aside (μ : Type) (i : Invocation σ τ) : Invocation (σ × μ) τ := fun s =>
  let (inner, first) := i s.1
  ((inner, s.2), alongside first)

/-- A transport in a world with a part that it does not touch. -/
def beside (μ : Type) (t : Transport σ τ) : Transport (σ × μ) τ where
  toEndpoints := .ofInvoke fun r o => aside μ (t.invoke r o)
  submit r o := aside μ (t.submit r o)
  polls := t.polls
  elapsed := t.elapsed
  finish ticket := alongside (t.finish ticket)

/-- Sends a request and waits for its response. -/
def call (t : Transport σ τ) (r : Request) (o : Options) (s : σ) : σ × Response :=
  let (s, ticket) := t.send r o s
  t.finish ticket s

end Transport

/-- What a scripted transport answers to one call. -/
structure Reply where
  response : Response
  /-- How many polls find the call unfinished. -/
  pending : Nat := 0
  elapsed : Duration := .zero

/-- The answers still to be given and the calls that have come in. -/
structure Script where
  replies : List Reply := []
  /-- All requests so far, first one first, with their options. -/
  sent : List (Request × Options) := []

namespace Script

/-- The answer when nothing is left of the script: a success without rows. -/
def exhausted : Reply := { response := .ofBody 200 (.array []) }

/-- Notes a request and takes the next answer. -/
def take (r : Request) (o : Options) (s : Script) : Script × Reply :=
  ({ replies := s.replies.tail, sent := s.sent ++ [(r, o)] }, s.replies.head?.getD exhausted)

/-- The transport that answers from a script. -/
def transport : Transport Script Reply where
  toEndpoints := .uniform take
  polls := Reply.pending
  elapsed := Reply.elapsed
  finish reply s := (s, reply.response)

end Script

end TableGateway
