/-
Log lines about calls.
-/
import TableGateway.Observe.CallLog

namespace TableGateway

/-- Which calls are logged, and how. -/
structure LogLine where
  /-- Calls that took less time are not logged. -/
  minElapsed : Option Duration := none
  /-- The most bytes of a payload that are shown; `none` shows all. -/
  maxPayload : Option Nat := some 200
  /-- What each line begins with. -/
  label : String := "[athena]"
deriving DecidableEq

namespace LogLine

/-- The payload's JSON text, cut to the bytes that are shown. -/
def payloadText (l : LogLine) (c : CallLog) : String :=
  match l.maxPayload with
  | some max => Text.abridge max c.payload.text
  | none => c.payload.text

/-- What is written about an event. -/
def write (l : LogLine) : Event → String
  | .start _ => ""
  | .slow c elapsed =>
      l.label ++ " SLOW CALL [" ++ c.endpoint.display ++ "] [" ++ c.tableOrDash ++ "]: "
        ++ elapsed.display ++ "\n"
  | .complete c r =>
      match l.minElapsed with
      | some min => if r.elapsed < min then "" else line c r
      | none => line c r
where
  /-- The line about a completed call. -/
  line (c : CallLog) (r : ResponseLog) : String :=
    l.label ++ " [" ++ c.endpoint.display ++ "] [" ++ c.tableOrDash ++ "] " ++ r.elapsed.display
      ++ " | " ++ r.display ++ " | " ++ l.payloadText c ++ "\n"

end LogLine

end TableGateway
