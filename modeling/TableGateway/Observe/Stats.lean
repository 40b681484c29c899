/-
Statistics over completed calls.

All numbers are of 64 bits, times in nanoseconds.  A longer call counts as the
longest that fits, and a sum that would wrap around becomes the bound.
-/
import TableGateway.Observe.CallLog

namespace TableGateway

/-- What is known of the calls since the last reset. -/
structure Stats where
  totalCalls : UInt64 := 0
  failedCalls : UInt64 := 0
  totalNanos : UInt64 := 0
  fetchCount : UInt64 := 0
  insertCount : UInt64 := 0
  updateCount : UInt64 := 0
  deleteCount : UInt64 := 0
  maxNanos : UInt64 := 0
  /-- The endpoint and the table of the first of the longest calls. -/
  slowest : Option (Endpoint × Option String) := none
deriving DecidableEq, Inhabited

namespace Stats

/-- The longest time that can be counted. -/
def bound : UInt64 := 0xFFFFFFFFFFFFFFFF

/-- The nanoseconds that a span counts for. -/
def clamp (d : Duration) : UInt64 :=
  if d.nanos < UInt64.size then UInt64.ofNat d.nanos else bound

/-- Adds to a total.  The sum is stored first, and the bound in its place if the
addition went past it. -/
def addTo (total nanos : UInt64) : UInt64 :=
  let sum := total + nanos
  if UInt64.size ≤ total.toNat + nanos.toNat then bound else sum

/-- The time of all calls together. -/
def totalDuration (s : Stats) : Duration := ⟨s.totalNanos.toNat⟩

/-- The time of the longest call. -/
def maxDuration (s : Stats) : Duration := ⟨s.maxNanos.toNat⟩

/-- Counts a call to an endpoint. -/
def count (s : Stats) : Endpoint → Stats
  | .fetch => { s with fetchCount := s.fetchCount + 1 }
  | .insert => { s with insertCount := s.insertCount + 1 }
  | .update => { s with updateCount := s.updateCount + 1 }
  | .delete => { s with deleteCount := s.deleteCount + 1 }

/-- Notes the call as the slowest if it took strictly longer than any before. -/
def compareSlowest (s : Stats) (c : CallLog) (nanos : UInt64) : Stats :=
  if s.maxNanos < nanos then
    { s with maxNanos := nanos, slowest := some (c.endpoint, c.table?) }
  else s

/-- Takes a completed call into account. -/
def complete (s : Stats) (c : CallLog) (r : ResponseLog) : Stats :=
  let nanos := clamp r.elapsed
  let s := { s with
    totalCalls := s.totalCalls + 1
    failedCalls := if r.ok then s.failedCalls else s.failedCalls + 1
    totalNanos := addTo s.totalNanos nanos }
  (s.count c.endpoint).compareSlowest c nanos

end Stats

end TableGateway
