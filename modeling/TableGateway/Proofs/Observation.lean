/-
Observation: what monitors are told of calls, and that calls do not notice.

An instrumented transport hands each request on to the transport inside, once and
as it is, and gives back the response that it gets.  A journal, in which the
monitor notes what it is told and the transport inside what is asked of it, has
nothing but this: at the opening of a call the operation inside is called, the start
is told, and the future inside is polled for the first time; at its closing the
response is given, the call is told to be slow if it took longer than the threshold,
and its completion is told (`Instrument.activities`).  That holds of calls in any
order, of one monitor for all of them, and of monitors that share their world with
the transport (`Instrument.journaled_of`).

So the start is told after the operation inside was called and before anything is
polled.  It is news of what is to come as long as operations do nothing but hand out
futures when they are called (`Instrument.foretold_iff`); of a transport that sends
at once the monitor hears when the request has left (`not_foretold_eager`).
-/
import TableGateway.Observe.Instrument
import TableGateway.Proofs.Exchanges
import TableGateway.Proofs.Serialization

namespace TableGateway

variable {σ τ μ : Type}

/-! ## Journals -/

/-- What happens inside an instrumented transport: the monitor is told of an event, an
operation of the transport inside is called, with a number for the call, its future is
polled for the first time, or a response is given. -/
inductive Activity where
  | told (e : Event)
  | called (n : Nat) (r : Request) (o : Options)
  | polled (n : Nat)
  | answered (n : Nat) (response : Response)

/-- All that has happened, first one first, with the number of calls so far. -/
structure Journal where
  calls : Nat := 0
  activities : List Activity := []

namespace Journal

/-- Notes a call when it is made and when it is first polled; its ticket gets its number. -/
def enter (r : Request) (o : Options) (i : Invocation σ τ) : Invocation (σ × Journal) (τ × Nat) :=
  fun s =>
    let (inner, first) := i s.1
    let n := s.2.calls
    ((inner, { calls := n + 1, activities := s.2.activities ++ [.called n r o] }), fun s =>
      let (inner, ticket) := first s.1
      ((inner, { s.2 with activities := s.2.activities ++ [.polled n] }), (ticket, n)))

/-- Notes the response that a ticket is turned in for. -/
def answer (finish : τ → σ → σ × Response) (ticket : τ × Nat) (s : σ × Journal) :
    (σ × Journal) × Response :=
  let (inner, response) := finish ticket.1 s.1
  ((inner, { s.2 with activities := s.2.activities ++ [.answered ticket.2 response] }), response)

/-- Notes what a monitor is told. -/
def note (tell : Event → σ → σ) (e : Event) (s : σ × Journal) : σ × Journal :=
  (tell e s.1, { s.2 with activities := s.2.activities ++ [.told e] })

theorem foldl_note (tell : Event → σ → σ) (es : List Event) (s : σ × Journal) :
    es.foldl (fun s e => note tell e s) s
      = (es.foldl (fun s e => tell e s) s.1,
          { s.2 with activities := s.2.activities ++ es.map .told }) := by
  induction es generalizing s with
  | nil => simp only [List.foldl_nil, List.map_nil, List.append_nil]
  | cons e rest ih =>
      rw [List.foldl_cons, ih, List.foldl_cons, List.map_cons]
      simp only [note, List.append_assoc, List.singleton_append]

end Journal

/-- The transport with a journal of what is asked of it and of what it gives. -/
def Transport.journaled (t : Transport σ τ) : Transport (σ × Journal) (τ × Nat) where
  toEndpoints := .ofInvoke fun r o => Journal.enter r o (t.invoke r o)
  submit r o := Journal.enter r o (t.submit r o)
  polls ticket := t.polls ticket.1
  elapsed ticket := t.elapsed ticket.1
  finish := Journal.answer t.finish

/-! ## What happens at the moments of a call -/

/-- A call of this length takes longer than the threshold, if there is one. -/
def ObserveConfig.Slow (c : ObserveConfig) (elapsed : Duration) : Prop :=
  ∃ threshold, c.threshold = some threshold ∧ threshold < elapsed

theorem ObserveConfig.isSlow_iff (c : ObserveConfig) (elapsed : Duration) :
    c.isSlow elapsed = true ↔ c.Slow elapsed := by
  unfold isSlow Slow
  cases c.threshold with
  | none => simp
  | some threshold => simp

instance (c : ObserveConfig) (elapsed : Duration) : Decidable (c.Slow elapsed) :=
  decidable_of_iff _ (c.isSlow_iff elapsed)

/-- A log has the endpoint and the body of the request, and its headers with a mark
in place of each credential. -/
theorem CallLog.ofRequest_spec (r : Request) (o : Options) :
    (ofRequest r o).endpoint = r.endpoint ∧ (ofRequest r o).payload = r.toJson ∧
      ∀ name, (ofRequest r o).headers.get? name = ((Headers.ofOptions o).get? name).map fun value =>
        if name.toLower ∈ secretNames then blank else value :=
  ⟨rfl, rfl, fun name => SortedMap.get?_mapValues _ _ name⟩

namespace Instrument

/-- What happens at a moment of a call under a configuration. -/
def activities (c : ObserveConfig) : Moment → List Activity
  | .opened n r o =>
      .called n r o ::
        (if c.enabled then [.told (.start (.ofRequest r o))] else []) ++ [.polled n]
  | .closed n r o response elapsed =>
      .answered n response ::
        if c.enabled then
          (if c.Slow elapsed then [.told (.slow (.ofRequest r o) elapsed)] else [])
            ++ [.told (.complete (.ofRequest r o) (.make response elapsed))]
        else []

theorem map_closing (c : ObserveConfig) (log : CallLog) (response : Response)
    (elapsed : Duration) :
    (closing c log response elapsed).map Activity.told
      = (if c.Slow elapsed then [.told (.slow log elapsed)] else [])
          ++ [.told (.complete log (.make response elapsed))] := by
  simp only [closing, List.map_append, c.isSlow_iff]
  split <;> rfl

section

variable (c : ObserveConfig) (tell : Event → σ → σ) (t : Transport σ τ)

/-- The log that goes with a ticket. -/
def logOf (r : Request) (o : Options) : Option CallLog :=
  if c.enabled then some (.ofRequest r o) else none

/-- Nothing is done before the first poll. -/
theorem invoke_eq (r : Request) (o : Options) :
    (transport c tell t).invoke r o = .later ((transport c tell t).dispatch r o) := by
  rw [transport, Endpoints.invoke_uniform, Endpoints.dispatch_uniform]

/-- The monitor is told after the operation inside is called and before it is polled. -/
theorem dispatch_eq (r : Request) (o : Options) (s : σ) :
    (transport c tell t).dispatch r o s
      = let (s, first) := t.invoke r o s
        let s := if c.enabled then tell (.start (.ofRequest r o)) s else s
        ((first s).1, ⟨(first s).2, logOf c r o⟩) := by
  rw [transport, Endpoints.dispatch_uniform]
  unfold logOf
  dsimp only
  split <;> rfl

/-- The monitor is told after the transport inside has given the response. -/
theorem finish_eq (ticket : Ticket τ) (s : σ) :
    (transport c tell t).finish ticket s
      = let (s, response) := t.finish ticket.inner s
        ((ticket.log.elim [] fun log => closing c log response (t.elapsed ticket.inner)).foldl
          (fun s e => tell e s) s, response) := by
  obtain ⟨inner, log⟩ := ticket
  cases log <;> rfl

/-- Whoever sends a request has it go to the operation of its endpoint. -/
theorem send_eq : (transport c tell t).send = (transport c tell t).dispatch := rfl

/-! ## Transparency -/

/-- The journal is all that is added. -/
theorem mirrors_journaled :
    (transport c (Journal.note tell) t.journaled).Mirrors (transport c tell t) Prod.fst
      (fun ticket => ⟨ticket.inner.1, ticket.log⟩) where
  dispatch r o s := by
    simp only [dispatch_eq, Transport.journaled, Endpoints.invoke_ofInvoke]
    split <;> rfl
  send r o s := by
    simp only [send_eq, dispatch_eq, Transport.journaled, Endpoints.invoke_ofInvoke]
    split <;> rfl
  polls _ := rfl
  elapsed _ := rfl
  finish ticket s := by
    simp only [finish_eq, Journal.foldl_note]
    rfl

/-- Where the monitor keeps to itself, calls go as they do without it. -/
theorem mirrors_apart (tell : Event → μ → μ) :
    (transport c (apart tell) (t.beside μ)).Mirrors t.shared Prod.fst Ticket.inner where
  dispatch r o s := by
    simp only [dispatch_eq, Transport.beside, Endpoints.invoke_ofInvoke]
    split <;> rfl
  send r o s := by
    simp only [send_eq, dispatch_eq, Transport.beside, Endpoints.invoke_ofInvoke]
    split <;> rfl
  polls _ := rfl
  elapsed _ := rfl
  finish ticket s := by
    have hapart : ∀ (es : List Event) (s : σ × μ),
        (es.foldl (fun s e => apart tell e s) s).1 = s.1 := by
      intro es
      induction es with
      | nil => exact fun _ => rfl
      | cons e rest ih => exact fun s => ih (apart tell e s)
    rw [finish_eq]
    exact Prod.ext (hapart _ ((t.beside μ).finish ticket.inner s).1).symm rfl

/-! ## The journal of any use -/

/-- The journal of what has passed, and the calls that may still be closed. -/
structure Kept (e : Exchanges (σ × Journal) (Ticket (τ × Nat))) : Prop where
  calls : e.state.2.calls = e.calls.length
  activities : e.state.2.activities = e.moments.flatMap (activities c)
  tickets : ∀ n (x : Exchange (Ticket (τ × Nat))), e.calls[n]? = some x →
    x.ticket.inner.2 = n ∧ x.ticket.log = logOf c x.request x.options

variable {c tell t} {e : Exchanges (σ × Journal) (Ticket (τ × Nat))}

theorem kept_opened (h : Kept c e) (r : Request) (o : Options) :
    Kept c (e.opened r o ((transport c (Journal.note tell) t.journaled).dispatch r o e.state)) := by
  have htaken : ∀ s : σ × Journal,
      let taken := (transport c (Journal.note tell) t.journaled).dispatch r o s
      taken.1.2 = { calls := s.2.calls + 1
                    activities := s.2.activities ++ activities c (.opened s.2.calls r o) } ∧
        taken.2.inner.2 = s.2.calls ∧ taken.2.log = logOf c r o := by
    intro s
    simp only [dispatch_eq, Transport.journaled, Endpoints.invoke_ofInvoke, activities]
    split
    · simp [Journal.enter, Journal.note]
    · simp [Journal.enter]
  obtain ⟨hjournal, hnumber, hlog⟩ := htaken e.state
  constructor
  case calls =>
    simp only [Exchanges.opened, hjournal, h.calls, List.length_append, List.length_singleton]
  case activities =>
    simp only [Exchanges.opened, hjournal, h.activities, h.calls, List.flatMap_append,
      List.flatMap_singleton]
  case tickets =>
    intro n x hx
    rcases getElem?_concat_eq_some hx with hx | ⟨rfl, rfl⟩
    · exact h.tickets n x hx
    · exact ⟨hnumber.trans h.calls, hlog⟩

theorem kept_closed {n : Nat} {x : Exchange (Ticket (τ × Nat))} (hx : e.calls[n]? = some x)
    (h : Kept c e) :
    Kept c (e.closed (transport c (Journal.note tell) t.journaled) n x) := by
  obtain ⟨hnumber, hlog⟩ := h.tickets n x hx
  have hjournal : ((transport c (Journal.note tell) t.journaled).finish x.ticket e.state).1.2
      = { e.state.2 with activities := e.state.2.activities
            ++ activities c (.closed n x.request x.options
              ((transport c (Journal.note tell) t.journaled).finish x.ticket e.state).2
              (t.elapsed x.ticket.inner.1)) } := by
    simp only [finish_eq, Journal.foldl_note, hlog, logOf, activities]
    split
    · simp [Transport.journaled, Journal.answer, map_closing, hnumber]
    · simp [Transport.journaled, Journal.answer, hnumber]
  constructor
  case calls =>
    simp only [Exchanges.closed, hjournal, h.calls, List.length_set]
  case activities =>
    simp only [Exchanges.closed, hjournal, h.activities, List.flatMap_append,
      List.flatMap_singleton]
    rfl
  case tickets =>
    intro k y hy
    simp only [Exchanges.closed, List.getElem?_set] at hy
    split at hy
    case isTrue hk =>
      subst hk
      split at hy
      · cases hy
        exact ⟨hnumber, hlog⟩
      · cases hy
    case isFalse => exact h.tickets k y hy

/-- Whatever requests come and whichever of their tickets are turned in, the journal
has what happens at the moments that pass, and nothing else. -/
theorem journaled_of (world : σ) (us : List Use) :
    Kept c (Exchanges.ofUses (transport c (Journal.note tell) t.journaled) (world, {}) us) := by
  apply Exchanges.ofUses_induction (P := fun e => Kept c e)
  case start => exact ⟨rfl, rfl, fun n x hx => absurd hx (by simp)⟩
  case dispatch => exact fun e r o h => kept_opened h r o
  case send => exact fun e r o h => kept_opened h r o
  case finish => exact fun e n x hx _ h => kept_closed hx h

end

/-! ## What a monitor sees of the transport inside -/

/-- Notes an event with the state in which the transport inside is at the time. -/
def sight (e : Event) (s : σ × List (Event × σ)) : σ × List (Event × σ) :=
  (s.1, s.2 ++ [(e, s.1)])

/-- The instrumented transport with a monitor that looks at the transport inside. -/
def sighted (c : ObserveConfig) (t : Transport σ τ) :
    Transport (σ × List (Event × σ)) (Ticket τ) :=
  transport c sight (t.beside (List (Event × σ)))

/-- Every start is told before the transport inside has done anything for the call. -/
def Foretold (c : ObserveConfig) (t : Transport σ τ) : Prop :=
  ∀ r o s, ∀ p ∈ ((sighted c t).dispatch r o (s, [])).1.2, p.2 = s

/-- A start is told in the state that the operation inside leaves when it is called. -/
theorem sights_dispatch (c : ObserveConfig) (t : Transport σ τ) (r : Request) (o : Options) (s : σ)
    (seen : List (Event × σ)) :
    ((sighted c t).dispatch r o (s, seen)).1.2
      = seen ++ if c.enabled then [(.start (.ofRequest r o), (t.invoke r o s).1)] else [] := by
  simp only [sighted, dispatch_eq, Transport.beside, Endpoints.invoke_ofInvoke]
  split
  case isTrue => rfl
  case isFalse => exact (List.append_nil seen).symm

theorem foretold_iff (c : ObserveConfig) (t : Transport σ τ) :
    Foretold c t ↔ c.enabled = false ∨ ∀ r o s, (t.invoke r o s).1 = s := by
  unfold Foretold
  simp only [sights_dispatch, List.nil_append]
  cases c.enabled with
  | false => simp
  | true => simp

end Instrument

/-- Every call of an instrumented transport, sent either way and however calls are
opened and closed in between: it is opened once and closed once or never, the
journal has what belongs to these moments and nothing else, and the log that the
monitor gets tells of the request.  Sessions use the transport so.  Where the
monitor keeps to itself, all calls, outcomes and requests are those without it.

Nothing happens before the first poll.  With that the operation inside is called and the
start is told after it, in the state that it has left.  So all starts are told before
anything is done for their calls exactly if none is told or the operations inside do
nothing when they are called. -/
theorem instrumented_calls (c : ObserveConfig) (tell : Event → σ → σ) (t : Transport σ τ)
    (world : σ) :
    let observed := Instrument.transport c tell t
    (∀ us,
      let e := Exchanges.ofUses observed world us
      let noted := Exchanges.ofUses (Instrument.transport c (Journal.note tell) t.journaled)
        (world, {}) us
      noted.moments = e.moments ∧ noted.state.1 = e.state ∧
      noted.state.2.activities = e.moments.flatMap (Instrument.activities c) ∧
      ∀ n, e.moments.filter (fun m => m.number = n)
        = (e.calls[n]?).elim [] (Exchange.moments observed n)) ∧
    (∀ defaults ops, ∃ us,
      let e := Exchanges.ofUses observed world us
      let s := (Session.observed observed world defaults).run ops
      s.surroundings.1 = e.state ∧
      s.surroundings.2.received = e.calls.map Exchange.content ∧
      s.surroundings.2.answered = e.moments.filterMap Moment.answer?) ∧
    (∀ r o,
      let log := CallLog.ofRequest r o
      log.endpoint = r.endpoint ∧ r.serialize = .ok log.payload ∧
      ∀ name, log.headers.get? name = ((Headers.ofOptions o).get? name).map fun value =>
        if name.toLower ∈ CallLog.secretNames then CallLog.blank else value) ∧
    (∀ (μ : Type) (tell : Event → μ → μ) (m : μ),
      let apart := Instrument.transport c (Instrument.apart tell) (t.beside μ)
      (∀ us, (Exchanges.ofUses apart (world, m) us).moments
        = (Exchanges.ofUses t.shared world us).moments) ∧
      ∀ defaults ops,
        (Session.start apart (world, m) defaults).trace ops
          = (Session.start t world defaults).trace ops ∧
        Session.traffic apart (world, m) defaults ops = Session.traffic t world defaults ops) ∧
    (∀ r o, observed.invoke r o = .later (observed.dispatch r o) ∧
      observed.submit r o = .later (observed.dispatch r o)) ∧
    (∀ r o s seen, ((Instrument.sighted c t).dispatch r o (s, seen)).1.2
      = seen ++ if c.enabled then [(.start (.ofRequest r o), (t.invoke r o s).1)] else []) ∧
    (Instrument.Foretold c t ↔ c.enabled = false ∨ ∀ r o s, (t.invoke r o s).1 = s) := by
  intro observed
  refine ⟨?_, ?_, ?_, ?_, fun r o => ⟨Instrument.invoke_eq c tell t r o, rfl⟩,
    Instrument.sights_dispatch c t, Instrument.foretold_iff c t⟩
  · intro us e noted
    have hmirror := Exchanges.ofUses_through (Instrument.mirrors_journaled c tell t) (world, {}) us
    have hkept : Instrument.Kept c noted := Instrument.journaled_of world us
    have hmoments : noted.moments = e.moments := congrArg Exchanges.moments hmirror
    have hstate : noted.state.1 = e.state := congrArg Exchanges.state hmirror
    refine ⟨hmoments, hstate, ?_, Exchanges.moments_of observed world us⟩
    rw [← hmoments]
    exact hkept.activities
  · intro defaults ops
    obtain ⟨us, hused⟩ := Session.used_run observed world defaults ops
    exact ⟨us, hused.state, hused.received, hused.answered⟩
  · intro r o log
    obtain ⟨hendpoint, hpayload, hheaders⟩ := CallLog.ofRequest_spec r o
    exact ⟨hendpoint, hpayload ▸ r.serialize_eq, hheaders⟩
  · intro μ tell m apart
    have hmirror := Instrument.mirrors_apart c t tell
    have hprojects : apart.Projects t Prod.fst Instrument.Ticket.inner :=
      ⟨hmirror.dispatch, hmirror.polls, hmirror.finish⟩
    refine ⟨?_, ?_⟩
    · intro us
      exact congrArg Exchanges.moments (Exchanges.ofUses_through hmirror (world, m) us)
    · intro defaults ops
      exact ⟨Session.trace_of_projects hprojects (world, m) defaults ops,
        Session.traffic_of_projects hprojects (world, m) defaults ops⟩

/-- Of a scripted transport all starts are told before the request comes in. -/
theorem instrumented_calls_scripted :
    Instrument.Foretold { enabled := true } Script.transport := by
  obtain ⟨-, -, -, -, -, -, hforetold⟩ :=
    instrumented_calls { enabled := true } (fun _ s => s) Script.transport {}
  refine hforetold.mpr (Or.inr fun r o s => ?_)
  rw [Script.transport, Endpoints.invoke_uniform]
  rfl

/-- A scripted transport that takes a request as soon as an operation is called. -/
def Script.eager : Transport Script Reply where
  toEndpoints := .ofInvoke fun r o s =>
    let (s, reply) := take r o s
    (s, fun s => (s, reply))
  polls := Reply.pending
  elapsed := Reply.elapsed
  finish reply s := (s, reply.response)

/-- When its monitor is told that an insert starts, the insert has come in. -/
theorem not_foretold_eager :
    let c : ObserveConfig := { enabled := true }
    let r : Request := .insert { tableName := "users", insertBody := .object [] }
    (((Instrument.sighted c Script.eager).dispatch r {} ({}, [])).1.2.map fun p =>
        (p.1, p.2.sent)) = [(.start (.ofRequest r {}), [(r, {})])] ∧
      ¬Instrument.Foretold c Script.eager := by
  intro c r
  have hseen := Instrument.sights_dispatch c Script.eager r {} {} []
  refine ⟨by rw [hseen]; rfl, ?_⟩
  rw [Instrument.foretold_iff]
  rintro (henabled | hnothing)
  · cases henabled
  · have hsent := congrArg Script.sent (hnothing r {} {})
    cases hsent

end TableGateway
