/-
Trace events: levelled records with named fields.
-/
import TableGateway.Observe.CallLog
import TableGateway.Json.Printer

namespace TableGateway

/-- How weighty a trace event is. -/
inductive Level where
  | error
  | warn
  | info
  | debug
  | trace
deriving DecidableEq

namespace Level

def name : Level → String
  | error => "ERROR"
  | warn => "WARN"
  | info => "INFO"
  | debug => "DEBUG"
  | trace => "TRACE"

def all : List Level := [error, warn, info, debug, trace]

end Level

/-- A trace event: its level and its fields in text form. -/
structure Trace where
  level : Level
  fields : List (String × String)
deriving DecidableEq

/-- How completed calls are traced. -/
structure Tracer where
  level : Level := .debug
  /-- Whether the payload is part of the event. -/
  withPayload : Bool := false
deriving DecidableEq

namespace Tracer

/-- The text of a truth value. -/
def boolText (b : Bool) : String := if b then "true" else "false"

/-- What is traced of an event.  Slow calls are always warnings. -/
def trace (t : Tracer) : Event → List Trace
  | .start _ => []
  | .slow c elapsed =>
      [⟨.warn,
        [("endpoint", c.endpoint.display), ("table", c.tableOrDash), ("elapsed", elapsed.display),
          ("message", "slow gateway call")]⟩]
  | .complete c r =>
      let payload := if t.withPayload then [("payload", c.payload.text)] else []
      [⟨t.level,
        [("endpoint", c.endpoint.display), ("table", c.tableOrDash),
          ("status", Nat.repr r.status.toNat), ("ok", boolText r.ok), ("error", r.error.getD "-"),
          ("elapsed", r.elapsed.display)] ++ payload⟩]

end Tracer

end TableGateway
