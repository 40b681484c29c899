/-
The slowest call: what statistics name is the first of the longest calls.

Statistics note the longest time and the call that took it in two places, and a reset
comes in between at any time.  `Peak` is the two together.  After any events and resets
they belong to one call: the first that took the longest time since the last reset, where
times past 64 bits of nanoseconds count as the longest there is (`Board.slowest_call`).
A later call that takes as long, and no longer, changes neither.
-/
import Mathlib.Data.List.DropRight
import Mathlib.Order.Lattice
import TableGateway.Proofs.Statistics

namespace TableGateway

/-! ## Peaks -/

/-- A call that is over, as observers are told of it. -/
structure Report where
  call : CallLog
  response : ResponseLog

namespace Report

/-- The nanoseconds that the call counts for. -/
def nanos (x : Report) : Nat := min x.response.elapsed.nanos (UInt64.size - 1)

/-- How the call is named when it is the slowest. -/
def name (x : Report) : Endpoint × Option String := (x.call.endpoint, x.call.table?)

end Report

/-- The longest time and the name of the call that took it. -/
structure Peak where
  longest : Duration := .zero
  slowest : Option (Endpoint × Option String) := none

namespace Peak

/-- Takes a call into account. -/
def after (p : Peak) (x : Report) : Peak :=
  if p.longest.nanos < x.nanos then ⟨⟨x.nanos⟩, some x.name⟩ else p

theorem after_of_lt {p : Peak} {x : Report} (h : p.longest.nanos < x.nanos) :
    p.after x = ⟨⟨x.nanos⟩, some x.name⟩ :=
  if_pos h

theorem after_of_le {p : Peak} {x : Report} (h : x.nanos ≤ p.longest.nanos) : p.after x = p :=
  if_neg (Nat.not_lt.mpr h)

theorem le_after (p : Peak) (x : Report) : x.nanos ≤ (p.after x).longest.nanos := by
  rcases Nat.lt_or_ge p.longest.nanos x.nanos with hlt | hle
  · rw [after_of_lt hlt]
  · rw [after_of_le hle]
    exact hle

/-- To hear of a call once more makes no difference. -/
theorem after_after (p : Peak) (x : Report) : (p.after x).after x = p.after x :=
  after_of_le (le_after p x)

/-- The longest time is that of no call or of the call that is named, the first such. -/
structure Fits (p : Peak) (calls : List Report) : Prop where
  le : ∀ x ∈ calls, x.nanos ≤ p.longest.nanos
  unnamed : p.longest.nanos = 0 → p.slowest = none
  named : 0 < p.longest.nanos →
    ∃ x, calls.find? (fun x => x.nanos = p.longest.nanos) = some x ∧ p.slowest = some x.name

theorem fits_nil : Fits {} [] where
  le := List.forall_mem_nil _
  unnamed := fun _ => rfl
  named := fun h => absurd h (Nat.lt_irrefl 0)

theorem Fits.after {p : Peak} {calls : List Report} (h : p.Fits calls) (x : Report) :
    (p.after x).Fits (calls ++ [x]) := by
  rcases Nat.lt_or_ge p.longest.nanos x.nanos with hlt | hle
  · rw [after_of_lt hlt]
    have hbelow : ∀ y ∈ calls, y.nanos < x.nanos := fun y hy => Nat.lt_of_le_of_lt (h.le y hy) hlt
    constructor
    case le =>
      rw [List.forall_mem_append]
      exact ⟨fun y hy => (hbelow y hy).le, List.forall_mem_singleton.mpr le_rfl⟩
    case unnamed => exact fun hzero => absurd hzero (Nat.ne_zero_of_lt hlt)
    case named =>
      -- all calls before are shorter, so that this one is the first that took so long
      have hnone : calls.find? (fun y => y.nanos = x.nanos) = none :=
        List.find?_eq_none.mpr fun y hy => by simpa using (hbelow y hy).ne
      refine fun _ => ⟨x, ?_, rfl⟩
      rw [List.find?_append, hnone, Option.none_or]
      exact List.find?_cons_of_pos (decide_eq_true rfl)
  · rw [after_of_le hle]
    constructor
    case le =>
      rw [List.forall_mem_append]
      exact ⟨h.le, List.forall_mem_singleton.mpr hle⟩
    case unnamed => exact h.unnamed
    case named =>
      intro hpos
      obtain ⟨y, hy, hname⟩ := h.named hpos
      exact ⟨y, by rw [List.find?_append, hy, Option.some_or], hname⟩

end Peak

/-! ## Events and resets -/

/-- The call that is over by an event. -/
def Event.report? : Event → Option Report
  | complete c r => some ⟨c, r⟩
  | _ => none

namespace Stats

def peak (s : Stats) : Peak := ⟨s.maxDuration, s.slowest⟩

theorem peak_complete (s : Stats) (c : CallLog) (r : ResponseLog) :
    (s.complete c r).peak = s.peak.after ⟨c, r⟩ := by
  have hnanos : (clamp r.elapsed).toNat = Report.nanos ⟨c, r⟩ := toNat_clamp r.elapsed
  have hlongest : (s.complete c r).maxNanos.toNat = max s.maxNanos.toNat (Report.nanos ⟨c, r⟩) :=
    hnanos ▸ maxNanos_complete s c r
  have hslowest : (s.complete c r).slowest
      = if s.maxNanos.toNat < Report.nanos ⟨c, r⟩ then some (c.endpoint, c.table?)
        else s.slowest := by
    simp only [complete, count_eq, compareSlowest_eq, UInt64.lt_iff_toNat_lt, hnanos]
  rw [peak, maxDuration, hlongest, hslowest]
  rcases Nat.lt_or_ge s.maxNanos.toNat (Report.nanos ⟨c, r⟩) with hlt | hle
  · rw [Peak.after_of_lt hlt, if_pos hlt, max_eq_right hlt.le]
    rfl
  · rw [Peak.after_of_le hle, if_neg (Nat.not_lt.mpr hle), max_eq_left hle]
    rfl

end Stats

/-- What a board hears of: an event, or a reset. -/
inductive Notice where
  | event (e : Event)
  /-- All statistics are reset. -/
  | reset

namespace Notice

/-- The peak after an event or a reset. -/
def peak (p : Peak) : Notice → Peak
  | event e => e.report?.elim p p.after
  | reset => {}

def report? : Notice → Option Report
  | event e => e.report?
  | reset => none

def isReset : Notice → Bool
  | event _ => false
  | reset => true

/-- The calls that are over since the last reset, first one first. -/
def sinceReset (ns : List Notice) : List Report :=
  (ns.rtakeWhile fun n => !n.isReset).filterMap report?

theorem sinceReset_concat_event (ns : List Notice) (e : Event) :
    sinceReset (ns ++ [event e]) = sinceReset ns ++ e.report?.toList := by
  rw [sinceReset, List.rtakeWhile_concat_pos _ _ _ rfl, List.filterMap_append]
  cases e <;> rfl

theorem sinceReset_concat_reset (ns : List Notice) : sinceReset (ns ++ [reset]) = [] := by
  rw [sinceReset, List.rtakeWhile_concat_neg _ _ _ Bool.false_ne_true]
  rfl

theorem fits_peak {p : Peak} {ns : List Notice} (h : p.Fits (sinceReset ns)) (n : Notice) :
    (n.peak p).Fits (sinceReset (ns ++ [n])) := by
  cases n with
  | event e =>
      rw [sinceReset_concat_event]
      cases e with
      | start c | slow c elapsed => exact (List.append_nil _).symm ▸ h
      | complete c r => exact h.after ⟨c, r⟩
  | reset =>
      rw [sinceReset_concat_reset]
      exact Peak.fits_nil

end Notice

/-! ## Statistics on a board -/

/-- Statistics that are told of an event more than once have the peak of being told once. -/
theorem Observer.exists_gatherTimes_stats (times : Nat) (s : Stats) (e : Event) :
    ∃ s', (stats s).gatherTimes (times + 1) e = stats s' ∧
      s'.peak = (Notice.event e).peak s.peak := by
  induction times with
  | zero =>
      cases e with
      | start c | slow c elapsed => exact ⟨s, rfl, rfl⟩
      | complete c r => exact ⟨s.complete c r, rfl, s.peak_complete c r⟩
  | succ times ih =>
      obtain ⟨s', hs', hpeak⟩ := ih
      rw [gatherTimes_succ, hs']
      cases e with
      | start c | slow c elapsed => exact ⟨s', rfl, hpeak⟩
      | complete c r =>
          refine ⟨s'.complete c r, rfl, ?_⟩
          rw [s'.peak_complete, hpeak]
          exact s.peak.after_after ⟨c, r⟩

namespace Board

/-- Tells the receivers of an event, or resets statistics. -/
def hear (receivers : Receivers Nat) (b : Board) : Notice → Board
  | .event e => b.notify receivers e
  | .reset => b.resetStats

/-- What comes of some events and resets, first one first. -/
def hearAll (receivers : Receivers Nat) (b : Board) (ns : List Notice) : Board :=
  ns.foldl (hear receivers) b

variable {receivers : Receivers Nat} {k : Nat}

/-- An observer keeps statistics with this peak. -/
def HasPeak (b : Board) (k : Nat) (p : Peak) : Prop :=
  ∃ s, b.observers[k]? = some (.stats s) ∧ s.peak = p

theorem hasPeak_hear (htold : k ∈ receivers.leaves) {b : Board} {p : Peak} (h : b.HasPeak k p)
    (n : Notice) : (b.hear receivers n).HasPeak k (n.peak p) := by
  obtain ⟨s, hs, rfl⟩ := h
  cases n with
  | event e =>
      obtain ⟨times, htimes⟩ :=
        Nat.exists_eq_add_one_of_ne_zero (List.count_pos_iff.mpr htold).ne'
      obtain ⟨s', hs', hpeak⟩ := Observer.exists_gatherTimes_stats times s e
      refine ⟨s', ?_, hpeak⟩
      rw [hear, observers_notify, hs, Option.map_some, htimes, hs']
  | reset =>
      refine ⟨{}, ?_, rfl⟩
      simp only [hear, resetStats, List.getElem?_map, hs, Option.map_some]

theorem hasPeak_hearAll (htold : k ∈ receivers.leaves) {b : Board} {p : Peak}
    (h : b.HasPeak k p) (ns : List Notice) :
    (b.hearAll receivers ns).HasPeak k (ns.foldl Notice.peak p) := by
  induction ns generalizing b p with
  | nil => exact h
  | cons n rest ih => exact ih (hasPeak_hear htold h n)

end Board

namespace Notice

theorem fits_foldl_peak (ns : List Notice) : (ns.foldl peak {}).Fits (sinceReset ns) := by
  induction ns using List.reverseRecOn with
  | nil => exact Peak.fits_nil
  | append_singleton ns n ih =>
      rw [List.foldl_concat]
      exact fits_peak ih n

/-- Calls that take no longer than the longest leave the peak as it is. -/
theorem foldl_peak_of_le {p : Peak} {later : List Event}
    (h : ∀ x ∈ later.filterMap Event.report?, x.nanos ≤ p.longest.nanos) :
    (later.map event).foldl peak p = p := by
  induction later with
  | nil => rfl
  | cons e rest ih =>
      rw [List.map_cons, List.foldl_cons]
      cases e with
      | start c | slow c elapsed => exact ih h
      | complete c r =>
          obtain ⟨hle, h⟩ := List.forall_mem_cons.mp h
          have hstay : (event (.complete c r)).peak p = p := Peak.after_of_le hle
          rw [hstay]
          exact ih h

end Notice

namespace Board

/-- Whatever calls start and end and however often statistics are reset: the statistics
of an observer that is told of the calls name the first call since the last reset that
took the longest time, or none if no call took any time.  Calls that come later and take
no longer change neither the time nor the name. -/
theorem slowest_call (receivers : Receivers Nat) (k : Nat) (b : Board)
    (htold : k ∈ receivers.leaves) (hfresh : b.observers[k]? = some (.stats {}))
    (ns : List Notice) :
    ∃ s, (b.hearAll receivers ns).observers[k]? = some (.stats s) ∧
      (∀ x ∈ Notice.sinceReset ns, x.nanos ≤ s.maxDuration.nanos) ∧
      (s.maxDuration.nanos = 0 → s.slowest = none) ∧
      (0 < s.maxDuration.nanos →
        ∃ x, (Notice.sinceReset ns).find? (fun x => x.nanos = s.maxDuration.nanos) = some x ∧
          s.slowest = some (x.call.endpoint, x.call.table?)) ∧
      ∀ later : List Event,
        (∀ x ∈ later.filterMap Event.report?, x.nanos ≤ s.maxDuration.nanos) →
        ∃ s', (b.hearAll receivers (ns ++ later.map .event)).observers[k]? = some (.stats s') ∧
          s'.maxDuration = s.maxDuration ∧ s'.slowest = s.slowest := by
  have hpeak : ∀ ns, (b.hearAll receivers ns).HasPeak k (ns.foldl Notice.peak {}) :=
    hasPeak_hearAll htold ⟨{}, hfresh, rfl⟩
  obtain ⟨s, hs, hsPeak⟩ := hpeak ns
  have hfits : s.peak.Fits (Notice.sinceReset ns) := hsPeak ▸ Notice.fits_foldl_peak ns
  refine ⟨s, hs, hfits.le, hfits.unnamed, hfits.named, ?_⟩
  intro later hlater
  obtain ⟨s', hs', hs'Peak⟩ := hpeak (ns ++ later.map .event)
  have hsame : s'.peak = s.peak := by
    rw [hs'Peak, List.foldl_append, ← hsPeak]
    exact Notice.foldl_peak_of_le hlater
  exact ⟨s', hs', congrArg Peak.longest hsame, congrArg Peak.slowest hsame⟩

/-- The end of a lookup that took this many nanoseconds. -/
def lookupOver (nanos : Nat) : Event :=
  .complete (.make .fetch (.object [("table_name", .string "users")]) {})
    ⟨200, true, none, ⟨nanos⟩⟩

/-- An insertion that took as long. -/
def insertion (nanos : Nat) : Report where
  call := .make .insert (.object [("table_name", .string "orders")]) {}
  response := ⟨200, true, none, ⟨nanos⟩⟩

/-- A lookup that took long, forgotten by a reset, and an insertion. -/
def lookupThenReset : List Notice :=
  [.event (lookupOver 9), .reset, .event (.complete (insertion 5).call (insertion 5).response)]

/-- A later lookup that took as long as the insertion is not named in its place, though the
observer is told of each call twice. -/
theorem slowest_call_tie :
    ∃ s : Stats, (hearAll (.several [.one 0, .one 0]) { observers := [.stats {}] }
        (lookupThenReset ++ [.event (lookupOver 5)])).observers[0]? = some (.stats s) ∧
      s.maxDuration.nanos = 5 ∧ s.slowest = some (.insert, some "orders") := by
  obtain ⟨s, -, hle, -, hnamed, hlater⟩ := slowest_call (.several [.one 0, .one 0]) 0
    { observers := [.stats {}] } (by decide) rfl lookupThenReset
  have hcalls : Notice.sinceReset lookupThenReset = [insertion 5] := rfl
  have hfive : 5 ≤ s.maxDuration.nanos := hle (insertion 5) (hcalls ▸ List.mem_cons_self)
  obtain ⟨x, hx, hname⟩ := hnamed (by omega)
  obtain rfl : x = insertion 5 := List.mem_singleton.mp (hcalls ▸ List.mem_of_find?_eq_some hx)
  have hfirst := List.find?_some hx
  have hmax : 5 = s.maxDuration.nanos := of_decide_eq_true hfirst
  obtain ⟨s', hs', hlongest, hslowest⟩ := hlater [lookupOver 5]
    (List.forall_mem_singleton.mpr hfive)
  exact ⟨s', hs', (congrArg Duration.nanos hlongest).trans hmax.symm, hslowest.trans hname⟩

end Board

end TableGateway
