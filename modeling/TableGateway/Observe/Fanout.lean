/-
Observers, and how events reach them.

A `Receivers` tree says who is told of an event and in which order.  Its leaves
name the observers of a `Board`, which holds what each of them has gathered, so
that an observer may be named by several leaves.
-/
import TableGateway.Observe.LastCall
import TableGateway.Observe.LogLine
import TableGateway.Observe.Stats
import TableGateway.Observe.Trace

namespace TableGateway

/-- Who is told of an event: nobody, one observer, or several in order. -/
inductive Receivers (ι : Type) where
  | nobody
  | one (i : ι)
  | several (members : List (Receivers ι))

namespace Receivers

variable {ι σ : Type}

mutual

/-- Tells each receiver, the members of a group from first to last. -/
def deliver (tell : ι → σ → σ) : Receivers ι → σ → σ
  | nobody, s => s
  | one i, s => tell i s
  | several members, s => deliverAll tell members s

/-- Tells each of some receivers, from first to last. -/
def deliverAll (tell : ι → σ → σ) : List (Receivers ι) → σ → σ
  | [], s => s
  | r :: rest, s => deliverAll tell rest (deliver tell r s)

end

mutual

/-- The observers named, from left to right. -/
def leaves : Receivers ι → List ι
  | nobody => []
  | one i => [i]
  | several members => leavesAll members

def leavesAll : List (Receivers ι) → List ι
  | [] => []
  | r :: rest => leaves r ++ leavesAll rest

end

end Receivers

/-- An observer of calls with what it has gathered. -/
inductive Observer where
  /-- It ignores all events. -/
  | silent
  | logging (l : LogLine)
  | tracing (t : Tracer)
  | stats (s : Stats)
  | lastCall (l : LastCall)
  /-- It keeps every event, first one first. -/
  | recorder (events : List Event)

namespace Observer

/-- What the observer has gathered after an event. -/
def gather : Observer → Event → Observer
  | stats s, .complete c r => stats (s.complete c r)
  | lastCall l, .start c => lastCall (l.start c)
  | lastCall l, .complete _ r => lastCall (l.complete r)
  | recorder events, e => recorder (events ++ [e])
  | o, _ => o

/-- What the observer writes about an event. -/
def written : Observer → Event → String
  | logging l, e => l.write e
  | _, _ => ""

/-- What the observer traces of an event. -/
def traced : Observer → Event → List Trace
  | tracing t, e => t.trace e
  | _, _ => []

end Observer

/-- Observers with their common outlets. -/
structure Board where
  observers : List Observer := []
  /-- The log lines written so far. -/
  log : String := ""
  /-- The trace events so far, first one first. -/
  traces : List Trace := []

namespace Board

/-- Tells the observer of this number of an event. -/
def tell (e : Event) (i : Nat) (b : Board) : Board :=
  match b.observers[i]? with
  | none => b
  | some o =>
      { observers := b.observers.set i (o.gather e)
        log := b.log ++ o.written e
        traces := b.traces ++ o.traced e }

/-- Tells all receivers of an event. -/
def notify (receivers : Receivers Nat) (e : Event) (b : Board) : Board :=
  receivers.deliver (tell e) b

/-- The statistics that are kept, in the order of their observers. -/
def allStats (b : Board) : List Stats :=
  b.observers.filterMap fun | .stats s => some s | _ => none

/-- The latest calls that are kept, in the order of their observers. -/
def allLastCalls (b : Board) : List LastCall :=
  b.observers.filterMap fun | .lastCall l => some l | _ => none

/-- The events that are kept, in the order of their observers. -/
def allEvents (b : Board) : List Event :=
  b.observers.flatMap fun | .recorder events => events | _ => []

/-- Forgets all statistics. -/
def resetStats (b : Board) : Board :=
  { b with observers := b.observers.map fun | .stats _ => .stats {} | o => o }

/-- Empties the outlets and the recorders. -/
def clear (b : Board) : Board :=
  { observers := b.observers.map fun | .recorder _ => .recorder [] | o => o
    log := ""
    traces := [] }

end Board

end TableGateway
