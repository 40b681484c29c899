/-
Transports whose calls are observed.

An instrumented transport passes every call on to the transport inside and
returns its response unchanged.  While observation is enabled, the receivers
are told when a call starts, if it took longer than the threshold, and when it
completes.
-/
import TableGateway.Observe.Fanout
import TableGateway.Transport

namespace TableGateway

/-- Whether calls are observed, and from when on a call is slow. -/
structure ObserveConfig where
  threshold : Option Duration := none
  enabled : Bool := false
deriving DecidableEq

namespace ObserveConfig

/-- Whether a call of this length is to be reported as slow. -/
def isSlow (c : ObserveConfig) (elapsed : Duration) : Bool :=
  match c.threshold with
  | some threshold => decide (threshold < elapsed)
  | none => false

end ObserveConfig

/-- Who observes the calls of a transport, and how. -/
structure Instrument (ι : Type) where
  receivers : Receivers ι := .nobody
  config : ObserveConfig := {}

namespace Instrument

variable {ι σ τ μ : Type}

/-- Puts a receiver in place of all others. -/
def withReceiver (i : Instrument ι) (r : Receivers ι) : Instrument ι :=
  { i with receivers := r }

/-- Adds a receiver after the others. -/
def addReceiver (i : Instrument ι) (r : Receivers ι) : Instrument ι :=
  { i with receivers := .several [i.receivers, r] }

def withConfig (i : Instrument ι) (config : ObserveConfig) : Instrument ι :=
  { i with config }

def withThreshold (i : Instrument ι) (threshold : Duration) : Instrument ι :=
  { i with config := { i.config with threshold := some threshold } }

def enable (i : Instrument ι) : Instrument ι :=
  { i with config := { i.config with enabled := true } }

def disable (i : Instrument ι) : Instrument ι :=
  { i with config := { i.config with enabled := false } }

/-- What the receivers are told when a call is over. -/
def closing (c : ObserveConfig) (log : CallLog) (r : Response) (elapsed : Duration) : List Event :=
  (if c.isSlow elapsed then [.slow log elapsed] else []) ++ [.complete log (.make r elapsed)]

/-- The ticket of an observed call: that of the transport inside, and the log
of the call if observation was enabled when it started. -/
structure Ticket (τ : Type) where
  inner : τ
  log : Option CallLog

/-- The transport that observes another one.  `tell` lets an event reach the
receivers, who live in one world with the transport inside.  The first poll of a
call calls the operation inside before anyone is told, and polls its future after
that. -/
def transport (c : ObserveConfig) (tell : Event → σ → σ) (t : Transport σ τ) :
    Transport σ (Ticket τ) where
  toEndpoints := .uniform fun r o s =>
    let (s, first) := t.invoke r o s
    if c.enabled then
      let log := CallLog.ofRequest r o
      let (s, ticket) := first (tell (.start log) s)
      (s, ⟨ticket, some log⟩)
    else
      let (s, ticket) := first s
      (s, ⟨ticket, none⟩)
  polls ticket := t.polls ticket.inner
  elapsed ticket := t.elapsed ticket.inner
  finish ticket s :=
    let (s, response) := t.finish ticket.inner s
    match ticket.log with
    | some log =>
        ((closing c log response (t.elapsed ticket.inner)).foldl (fun s e => tell e s) s, response)
    | none => (s, response)

/-- A monitor that lives in a part of the world that the transport does not touch. -/
def apart (tell : Event → μ → μ) (e : Event) (s : σ × μ) : σ × μ := (s.1, tell e s.2)

/-- The transport inside under the observation of a board. -/
def onBoard (i : Instrument Nat) (t : Transport σ τ) : Transport (σ × Board) (Ticket τ) :=
  transport i.config (apart (Board.notify i.receivers)) (t.beside Board)

end Instrument

end TableGateway
