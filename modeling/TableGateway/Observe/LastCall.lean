/-
The most recent call, and how many are under way.

How many is a number of 64 bits, which starts wrap around past the greatest.
-/
import TableGateway.Observe.CallLog

namespace TableGateway

/-- What is known of the latest calls. -/
structure LastCall where
  /-- The call that started last. -/
  request : Option CallLog := none
  /-- The outcome of the call that completed last. -/
  response : Option ResponseLog := none
  /-- The error of the call that completed last, gone when another one starts. -/
  error : Option String := none
  /-- The calls started and not completed; no completion takes it below zero. -/
  inFlight : UInt64 := 0

namespace LastCall

def isLoading (l : LastCall) : Bool := l.inFlight != 0

def start (l : LastCall) (c : CallLog) : LastCall :=
  { l with request := some c, error := none, inFlight := l.inFlight + 1 }

def complete (l : LastCall) (r : ResponseLog) : LastCall :=
  { l with
    response := some r
    error := r.error
    inFlight := if l.inFlight = 0 then 0 else l.inFlight - 1 }

end LastCall

end TableGateway
