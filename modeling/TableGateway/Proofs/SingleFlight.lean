/-
Single flight: every handle and every fetch is sent once, however it is used.

Whatever the order in which handles are cloned, refined and set off and their
futures copied, polled, awaited, joined or dropped, the transport receives one
request for each fetch and each handle of which some future was polled, and
nothing else (`single_flight`).  All futures of a handle yield what they make of
the one response to it.
-/
import TableGateway.Proofs.Agreement

namespace TableGateway

open Session

variable {σ τ : Type}

/-- The account of a run, as its caller can keep it. -/
def Session.account (s : Session σ τ) (ops : List Operation) : Chronicle :=
  .ofTrace (s.trace ops)

/-- The session of a client whose transport keeps a record. -/
def Session.observed (t : Transport σ τ) (surroundings : σ) (defaults : Options) :
    Session (σ × Traffic) (τ × Nat) :=
  start t.recorded (surroundings, {}) defaults

/-- The record of a run. -/
def Session.traffic (t : Transport σ τ) (surroundings : σ) (defaults : Options)
    (ops : List Operation) : Traffic :=
  ((observed t surroundings defaults).run ops).surroundings.2

namespace Chronicle

/-- The request for an origin: the one received at the place of its first poll. -/
def request? (c : Chronicle) (traffic : Traffic) (o : Origin) : Option (Request × Options) :=
  traffic.received[c.flights.idxOf o]?

/-- The response to the request for an origin. -/
def response? (c : Chronicle) (traffic : Traffic) (o : Origin) : Option Response :=
  traffic.answered.lookup (c.flights.idxOf o)

theorem mem_flights {c : Chronicle} {o : Origin} : o ∈ c.flights ↔ o ∈ c.polls :=
  List.mem_eraseDups

theorem nodup_flights (c : Chronicle) : c.flights.Nodup := nodup_eraseDups c.polls

theorem count_flights (c : Chronicle) (o : Origin) :
    c.flights.count o = if o ∈ c.polls then 1 else 0 := by
  rw [(nodup_flights c).count]
  exact if_congr mem_flights rfl rfl

theorem getElem?_idxOf_flights {c : Chronicle} {o : Origin} (h : o ∈ c.polls) :
    c.flights[c.flights.idxOf o]? = some o := by
  have hlt := List.idxOf_lt_length_iff.mpr (mem_flights.mpr h)
  rw [List.getElem?_eq_getElem hlt, List.getElem_idxOf hlt]

theorem idxOf_flights {c : Chronicle} {o : Origin} {k : Nat} (h : c.flights[k]? = some o) :
    c.flights.idxOf o = k := by
  obtain ⟨hlt, rfl⟩ := List.getElem?_eq_some_iff.mp h
  exact (nodup_flights c).idxOf_getElem k hlt

end Chronicle

section

variable {s : Session (σ × Traffic) (τ × Nat)} {c : Chronicle} {owners : List Origin}
  {polls : List Nat}

/-- For what was polled the account expects a request, and that was received. -/
theorem Session.Agrees.exists_request {o : Origin} (h : s.Agrees c owners polls)
    (ho : o ∈ c.polls) :
    ∃ content, c.sent s.defaults o = some content ∧
      c.request? s.surroundings.2 o = some content := by
  have hk := congrArg (·[c.flights.idxOf o]?) h.received
  simp only [List.getElem?_map, Chronicle.getElem?_idxOf_flights ho, Option.map_some] at hk
  obtain ⟨content, hcontent, hsent⟩ := Option.map_eq_some_iff.mp hk
  exact ⟨content, hsent.symm, hcontent⟩

/-- What was received was due for an origin, and is the request for it. -/
theorem Session.Agrees.exists_origin {content : Request × Options} (h : s.Agrees c owners polls)
    (hreceived : content ∈ s.surroundings.2.received) :
    ∃ o, c.sent s.defaults o = some content ∧ c.request? s.surroundings.2 o = some content := by
  have hmem := List.mem_map_of_mem (f := some) hreceived
  rw [h.received] at hmem
  obtain ⟨o, hflight, hsent⟩ := List.mem_map.mp hmem
  obtain ⟨content', hsent', hrequest⟩ := h.exists_request (Chronicle.mem_flights.mp hflight)
  cases hsent'.symm.trans hsent
  exact ⟨o, hsent, hrequest⟩

theorem Session.Agrees.exists_response {y : Held × Result Json} (h : s.Agrees c owners polls)
    (hy : y ∈ c.yields) :
    ∃ response, c.response? s.surroundings.2 y.1.origin = some response ∧
      y.2 = y.1.view (.ofResponse response) := by
  obtain ⟨k, response, hk, hmem, hview⟩ := h.answered hy
  refine ⟨response, ?_, hview⟩
  rw [Chronicle.response?, Chronicle.idxOf_flights hk]
  exact Entries.lookup_of_mem h.flown.once hmem

end

namespace Session

/-- Looked at without its record, an observed run is the run itself. -/
theorem run_observed (t : Transport σ τ) (surroundings : σ) (defaults : Options)
    (ops : List Operation) :
    (start t surroundings defaults).run ops
      = ((observed t surroundings defaults).run ops).through t Prod.fst Prod.fst :=
  run_through (s := observed t surroundings defaults) ops t.projects_recorded

theorem trace_observed (t : Transport σ τ) (surroundings : σ) (defaults : Options)
    (ops : List Operation) :
    (start t surroundings defaults).trace ops = (observed t surroundings defaults).trace ops :=
  trace_through (s := observed t surroundings defaults) ops t.projects_recorded

theorem account_observed (t : Transport σ τ) (surroundings : σ) (defaults : Options)
    (ops : List Operation) :
    (start t surroundings defaults).account ops = (observed t surroundings defaults).account ops :=
  congrArg Chronicle.ofTrace (trace_observed t surroundings defaults ops)

/-- Every run agrees with its account. -/
theorem exists_agrees_account (t : Transport σ τ) (surroundings : σ) (defaults : Options)
    (ops : List Operation) :
    ∃ owners polls, ((observed t surroundings defaults).run ops).Agrees
      ((start t surroundings defaults).account ops) owners polls := by
  rw [account_observed]
  exact (exists_agrees_run ops (agrees_start t surroundings defaults)).1

theorem defaults_observed (t : Transport σ τ) (surroundings : σ) (defaults : Options)
    (ops : List Operation) :
    ((observed t surroundings defaults).run ops).defaults = defaults :=
  defaults_run (observed t surroundings defaults) ops

/-- Of any run: recording it changes nothing; what the transport received is what
was due for the origins that were polled, each once, and it answered none twice;
what a future yielded is its view of the response to its origin, so the same for
all futures of a handle; and no await and no join was left without its results. -/
theorem single_flight (t : Transport σ τ) (surroundings : σ) (defaults : Options)
    (ops : List Operation) :
    let c := (start t surroundings defaults).account ops
    let traffic := traffic t surroundings defaults ops
    (start t surroundings defaults).run ops
        = ((observed t surroundings defaults).run ops).through t Prod.fst Prod.fst ∧
      traffic.received.map some = c.flights.map (c.sent defaults) ∧
      (∀ o, c.flights.count o = if o ∈ c.polls then 1 else 0) ∧
      (traffic.answered.map Prod.fst).Nodup ∧
      (∀ y ∈ c.yields, ∃ response, c.response? traffic y.1.origin = some response ∧
        y.2 = y.1.view (.ofResponse response)) ∧
      ∀ e ∈ (start t surroundings defaults).trace ops, Completes e.1 e.2 := by
  obtain ⟨owners, polls, h⟩ := exists_agrees_account t surroundings defaults ops
  have hreceived := h.received
  rw [defaults_observed] at hreceived
  refine ⟨run_observed t surroundings defaults ops, hreceived, Chronicle.count_flights _,
    h.flown.once, ?_, ?_⟩
  · intro y hy
    exact h.exists_response hy
  · rw [trace_observed]
    exact (exists_agrees_run ops (agrees_start t surroundings defaults)).2

end Session

end TableGateway
