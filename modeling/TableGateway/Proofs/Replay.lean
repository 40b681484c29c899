/-
Replays: what monitors and servers learn of keys.

The ledger of an instrumented transport has all that the transport inside does --
which requests it takes, for how many polls, and which responses it gives -- and
all that the monitor is told.  What the transport decides by itself in this, its
paces, can be put in a list, and there is a transport that goes by such a list
(`replay`).  With marks in place of keys, and but for measured times, the ledger
of a run is that of its replay (`Session.ledger_seen`).  A replay does not know
the keys.  So neither do the monitor and the bodies of requests: two runs with the
same paces that differ in keys only tell the same (`credential_noninterference`).
-/
import TableGateway.Proofs.Credentials
import TableGateway.Proofs.Observation
import TableGateway.Proofs.Precedence

namespace TableGateway

variable {σ σ' τ τ' : Type}

/-! ## Ledgers -/

/-- What a transport does: it takes a request, which it will be done with after
some polls, or it gives a response. -/
inductive Deed where
  | took (r : Request) (o : Options) (polls : Nat)
  | gave (response : Response)

/-- What a transport decides of a deed. -/
inductive Pace where
  | after (polls : Nat)
  | gave (response : Response)

namespace Deed

def pace : Deed → Pace
  | took _ _ polls => .after polls
  | gave response => .gave response

/-- The body of the request that is taken. -/
def body? : Deed → Option String
  | took r _ _ => some r.wireText
  | gave _ => none

/-- The deed with marks in place of keys. -/
def masked : Deed → Deed
  | took r o polls => took r o.masked polls
  | gave response => gave response

/-- Deeds that differ in the keys of their options only. -/
inductive Alike : Deed → Deed → Prop where
  | took (r : Request) (polls : Nat) {o o' : Options} : o.Alike o' →
      Alike (took r o polls) (took r o' polls)
  | gave (response : Response) : Alike (gave response) (gave response)

theorem alike_of_masked {d d' : Deed} (h : d.masked = d'.masked) : d.Alike d' := by
  cases d with
  | took r o polls =>
      cases d' with
      | took r' o' polls' =>
          obtain ⟨rfl, ho, rfl⟩ := Deed.took.inj h
          exact .took r polls (Options.masked_eq_iff.mp ho)
      | gave response' => cases h
  | gave response =>
      cases d' with
      | took r' o' polls' => cases h
      | gave response' =>
          cases h
          exact .gave response

theorem body?_masked (d : Deed) : d.masked.body? = d.body? := by
  cases d <;> rfl

theorem forall₂_of_masked {ds ds' : List Deed} (h : ds.map masked = ds'.map masked) :
    List.Forall₂ Alike ds ds' := by
  have hmasked : List.Forall₂ (· = ·) (ds.map masked) (ds'.map masked) :=
    h ▸ List.forall₂_refl (ds.map masked)
  rw [List.forall₂_map_left_iff, List.forall₂_map_right_iff] at hmasked
  exact hmasked.imp fun _ _ => alike_of_masked

theorem bodies_of_masked {ds ds' : List Deed} (h : ds.map masked = ds'.map masked) :
    ds.filterMap body? = ds'.filterMap body? := by
  have hbodies : ∀ ds : List Deed, (ds.map masked).filterMap body? = ds.filterMap body? := by
    intro ds
    rw [List.filterMap_map]
    exact List.filterMap_congr fun d _ => body?_masked d
  rw [← hbodies ds, h, hbodies]

end Deed

namespace Event

/-- The call that the event belongs to. -/
def call : Event → CallLog
  | start log => log
  | slow log _ => log
  | complete log _ => log

/-- The event without what depends on measured time.  That a call was slow does. -/
def untimed? : Event → Option Event
  | start log => some (start log)
  | slow _ _ => none
  | complete log r => some (complete log { r with elapsed := .zero })

theorem start_mem_untimed_iff {log : CallLog} {es : List Event} :
    start log ∈ es.filterMap untimed? ↔ start log ∈ es := by
  rw [List.mem_filterMap]
  constructor
  · rintro ⟨e, he, h⟩
    cases e with
    | start log' =>
        cases h
        exact he
    | slow log' elapsed => cases h
    | complete log' r => cases h
  · intro h
    exact ⟨start log, h, rfl⟩

end Event

/-- All that a transport has done and a monitor was told, first one first. -/
structure Ledger where
  deeds : List Deed := []
  events : List Event := []

namespace Ledger

/-- Notes what a monitor is told. -/
def note (tell : Event → σ → σ) (e : Event) (s : σ × Ledger) : σ × Ledger :=
  (tell e s.1, { s.2 with events := s.2.events ++ [e] })

theorem foldl_note (tell : Event → σ → σ) (es : List Event) (s : σ × Ledger) :
    es.foldl (fun s e => note tell e s) s
      = (es.foldl (fun s e => tell e s) s.1, { s.2 with events := s.2.events ++ es }) := by
  induction es generalizing s with
  | nil => rw [List.foldl_nil, List.foldl_nil, List.append_nil]
  | cons e rest ih =>
      rw [List.foldl_cons, ih, List.foldl_cons]
      simp only [note, List.append_assoc, List.singleton_append]

/-- The ledger with marks in place of keys, without measured times. -/
def seen (l : Ledger) : Ledger where
  deeds := l.deeds.map Deed.masked
  events := l.events.filterMap Event.untimed?

/-- A start that is in one ledger is in each ledger that looks the same. -/
theorem start_mem_of_seen {l l' : Ledger} (h : l.seen = l'.seen)
    (hstarted : ∀ e ∈ l.events, Event.start e.call ∈ l.events) :
    ∀ e ∈ l.events, Event.start e.call ∈ l'.events := by
  intro e he
  have hstart := Event.start_mem_untimed_iff.mpr (hstarted e he)
  have hevents : l.events.filterMap Event.untimed? = l'.events.filterMap Event.untimed? :=
    congrArg Ledger.events h
  rw [hevents] at hstart
  exact Event.start_mem_untimed_iff.mp hstart

end Ledger

/-- The transport with a ledger of its deeds. -/
def Transport.ledgered (t : Transport σ τ) : Transport (σ × Ledger) τ where
  toEndpoints := .ofInvoke fun r o s =>
    let (inner, first) := t.invoke r o s.1
    ((inner, s.2), fun s =>
      let (inner, ticket) := first s.1
      ((inner, { s.2 with deeds := s.2.deeds ++ [.took r o (t.polls ticket)] }), ticket))
  polls := t.polls
  elapsed := t.elapsed
  finish ticket s :=
    let (inner, response) := t.finish ticket s.1
    ((inner, { s.2 with deeds := s.2.deeds ++ [.gave response] }), response)

/-! ## Replays -/

namespace Pace

def polls : Pace → Nat
  | after polls => polls
  | gave _ => 0

def response : Pace → Response
  | after _ => Script.exhausted.response
  | gave response => response

end Pace

/-- The transport that goes by a list of paces.  Its tickets are numbers of polls. -/
def replay : Transport (List Pace) Nat where
  toEndpoints := .uniform fun _ _ paces => (paces.tail, paces.head?.elim 0 Pace.polls)
  polls := id
  elapsed _ := .zero
  finish _ paces := (paces.tail, paces.head?.elim Script.exhausted.response Pace.response)

theorem invoke_replay (r : Request) (o : Options) :
    replay.invoke r o = .later fun paces => (paces.tail, paces.head?.elim 0 Pace.polls) := by
  rw [replay, Endpoints.invoke_uniform]

namespace Instrument

/-- The instrumented transport with the ledger of the transport inside and of the
monitor. -/
def ledgered (c : ObserveConfig) (tell : Event → σ → σ) (t : Transport σ τ) :
    Transport (σ × Ledger) (Ticket τ) :=
  transport c (Ledger.note tell) t.ledgered

variable (c : ObserveConfig) (tell : Event → σ → σ) (t : Transport σ τ)

theorem dispatch_ledgered (r : Request) (o : Options) (s : σ × Ledger) :
    (ledgered c tell t).dispatch r o s
      = let (inner, first) := t.invoke r o s.1
        let inner := if c.enabled then tell (.start (.ofRequest r o)) inner else inner
        let (inner, ticket) := first inner
        ((inner,
          { deeds := s.2.deeds ++ [.took r o (t.polls ticket)]
            events := s.2.events ++ ((logOf c r o).map Event.start).toList }),
          ⟨ticket, logOf c r o⟩) := by
  have hinvoke : t.ledgered.invoke r o = fun s =>
      let (inner, first) := t.invoke r o s.1
      ((inner, s.2), fun s =>
        let (inner, ticket) := first s.1
        ((inner, { s.2 with deeds := s.2.deeds ++ [.took r o (t.polls ticket)] }), ticket)) := by
    rw [Transport.ledgered, Endpoints.invoke_ofInvoke]
  rw [ledgered, dispatch_eq, hinvoke]
  by_cases h : c.enabled = true
  · simp only [logOf, if_pos h]
    rfl
  · simp only [logOf, if_neg h, Option.map_none, Option.toList_none, List.append_nil]

theorem finish_ledgered (ticket : Ticket τ) (s : σ × Ledger) :
    (ledgered c tell t).finish ticket s
      = let (inner, response) := t.finish ticket.inner s.1
        let told := ticket.log.elim [] fun log => closing c log response (t.elapsed ticket.inner)
        ((told.foldl (fun s e => tell e s) inner,
          { deeds := s.2.deeds ++ [.gave response], events := s.2.events ++ told }), response) := by
  simp only [ledgered, finish_eq, Ledger.foldl_note]
  rfl

/-- The ledger is all that is added. -/
theorem projects_ledgered :
    (ledgered c tell t).Projects (transport c tell t) Prod.fst id where
  dispatch r o s := by
    rw [dispatch_ledgered, dispatch_eq]
    rfl
  polls _ := rfl
  finish ticket s := by
    rw [finish_ledgered, finish_eq]
    rfl

end Instrument

/-! ## The replay of a run -/

namespace Ledger

/-- What a replay along some paces has before it, and its own ledger so far. -/
def view (paces : List Pace) (s : σ × Ledger) : List Pace × Ledger :=
  (paces.drop s.2.deeds.length, s.2.seen)

/-- The deeds so far go along the paces. -/
def Along (paces : List Pace) (s : σ × Ledger) : Prop :=
  s.2.deeds.map Deed.pace <+: paces

theorem drop_of_along {paces : List Pace} {deeds : List Deed} {d : Deed}
    (h : (deeds ++ [d]).map Deed.pace <+: paces) :
    paces.drop deeds.length = d.pace :: paces.drop (deeds.length + 1) := by
  obtain ⟨rest, rfl⟩ := h
  simp [List.drop_append]

theorem along_of_concat {paces : List Pace} {deeds : List Deed} {d : Deed}
    (h : (deeds ++ [d]).map Deed.pace <+: paces) : deeds.map Deed.pace <+: paces := by
  rw [List.map_append] at h
  exact (List.prefix_append _ _).trans h

end Ledger

namespace Instrument

variable {c : ObserveConfig} {tell : Event → σ → σ} {t : Transport σ τ}

/-- The ticket that a replay has for a ticket. -/
def Ticket.view (t : Transport σ τ) (ticket : Ticket τ) : Ticket Nat :=
  ⟨t.polls ticket.inner, ticket.log⟩

/-- The transport for replays, observed without a threshold by a monitor that has
nothing but the ledger. -/
def replayed (c : ObserveConfig) : Transport (List Pace × Ledger) (Ticket Nat) :=
  ledgered { c with threshold := none } (fun _ s => s) replay

theorem logOf_masked (r : Request) (o : Options) : logOf c r o.masked = logOf c r o := by
  rw [logOf, CallLog.ofRequest_masked]
  rfl

theorem untimed_closing (c : ObserveConfig) (log : CallLog) (response : Response)
    (elapsed : Duration) :
    (closing c log response elapsed).filterMap Event.untimed?
      = [.complete log (.make response .zero)] := by
  unfold closing
  split <;> rfl

/-- A transport does what its replay does for as long as the paces last. -/
theorem shows_replayed (paces : List Pace) :
    (ledgered c tell t).Shows .mask (replayed c) (Ledger.view paces) (Ticket.view t)
      (Ledger.Along paces) where
  dispatch r o s hgood := by
    rw [dispatch_ledgered] at hgood ⊢
    -- the pace of this deed is the next one that the replay has before it
    have hdrop := Ledger.drop_of_along hgood
    have hstart : ((logOf c r o).map Event.start).toList.filterMap Event.untimed?
        = ((logOf c r o).map Event.start).toList := by
      cases logOf c r o <;> rfl
    have hlog : logOf { c with threshold := none } r (Veil.mask.hide o) = logOf c r o :=
      logOf_masked r o
    rw [replayed, dispatch_ledgered]
    simp only [ite_self, Ledger.view, hdrop, invoke_replay, hlog]
    simp only [Prod.map, Ledger.view, Ledger.seen, List.length_append, List.length_singleton,
      List.map_append, List.filterMap_append, hstart]
    rfl
  polls _ := rfl
  finish ticket s hgood := by
    rw [finish_ledgered] at hgood ⊢
    have hdrop := Ledger.drop_of_along hgood
    have htold : ∀ response elapsed,
        (ticket.log.elim [] fun log => closing c log response elapsed).filterMap Event.untimed?
          = ticket.log.elim [] fun log =>
            closing { c with threshold := none } log response .zero := by
      intro response elapsed
      cases ticket.log with
      | none => rfl
      | some log => exact untimed_closing c log response elapsed
    rw [replayed, finish_ledgered]
    simp only [Ledger.view, hdrop, Ticket.view, List.foldl_fixed]
    simp only [Prod.map, Ledger.view, Ledger.seen, List.length_append, List.length_singleton,
      List.map_append, List.filterMap_append, htold]
    rfl
  good_of_dispatch r o s hgood := by
    rw [dispatch_ledgered] at hgood
    exact Ledger.along_of_concat hgood
  good_of_finish ticket s hgood := by
    rw [finish_ledgered] at hgood
    exact Ledger.along_of_concat hgood

/-! ## Starts -/

theorem call_of_mem_closing {log : CallLog} {response : Response} {elapsed : Duration} {e : Event}
    (h : e ∈ closing c log response elapsed) : e.call = log := by
  rcases List.mem_append.mp h with h | h
  · split at h
    · rw [List.mem_singleton.mp h]
      rfl
    · cases h
  · rw [List.mem_singleton.mp h]
    rfl

/-- What the monitor was told or is going to be told belongs to a call of whose
start it was told. -/
structure Started (e : Exchanges (σ × Ledger) (Ticket τ)) : Prop where
  told : ∀ event ∈ e.state.2.events, Event.start event.call ∈ e.state.2.events
  tickets : ∀ x ∈ e.calls, ∀ log, x.ticket.log = some log → Event.start log ∈ e.state.2.events

variable {e : Exchanges (σ × Ledger) (Ticket τ)}

theorem started_opened (h : Started e) (r : Request) (o : Options) :
    Started (e.opened r o ((ledgered c tell t).dispatch r o e.state)) := by
  have hevents : ((ledgered c tell t).dispatch r o e.state).1.2.events
      = e.state.2.events ++ ((logOf c r o).map Event.start).toList := by
    rw [dispatch_ledgered]
  have hlog : ((ledgered c tell t).dispatch r o e.state).2.log = logOf c r o := by
    rw [dispatch_ledgered]
  constructor
  case told =>
    intro event hevent
    simp only [Exchanges.opened, hevents] at hevent ⊢
    rcases List.mem_append.mp hevent with hevent | hevent
    · exact List.mem_append_left _ (h.told event hevent)
    · refine List.mem_append_right _ ?_
      obtain ⟨log, hlog, rfl⟩ := Option.map_eq_some_iff.mp (Option.mem_toList.mp hevent)
      exact hevent
  case tickets =>
    intro x hx log hx'
    simp only [Exchanges.opened, hevents] at hx ⊢
    rcases List.mem_append.mp hx with hx | hx
    · exact List.mem_append_left _ (h.tickets x hx log hx')
    · refine List.mem_append_right _ (Option.mem_toList.mpr ?_)
      rw [List.mem_singleton.mp hx, hlog] at hx'
      rw [hx']
      rfl

theorem started_closed {n : Nat} {x : Exchange (Ticket τ)} (hx : e.calls[n]? = some x)
    (h : Started e) : Started (e.closed (ledgered c tell t) n x) := by
  have hstart := h.tickets x (List.mem_of_getElem? hx)
  constructor
  case told =>
    intro event hevent
    simp only [Exchanges.closed, finish_ledgered] at hevent ⊢
    rcases List.mem_append.mp hevent with hevent | hevent
    · exact List.mem_append_left _ (h.told event hevent)
    · refine List.mem_append_left _ ?_
      cases hlog : x.ticket.log with
      | none =>
          rw [hlog] at hevent
          cases hevent
      | some log =>
          rw [hlog] at hevent
          rw [call_of_mem_closing hevent]
          exact hstart log hlog
  case tickets =>
    intro y hy log hlog
    simp only [Exchanges.closed, finish_ledgered] at hy ⊢
    refine List.mem_append_left _ ?_
    rcases List.mem_or_eq_of_mem_set hy with hy | rfl
    · exact h.tickets y hy log hlog
    · exact hstart log hlog

theorem started_of (world : σ) (us : List Use) :
    Started (Exchanges.ofUses (ledgered c tell t) (world, {}) us) := by
  apply Exchanges.ofUses_induction (P := fun e => Started e)
  case start =>
    constructor
    case told => exact fun event h => absurd h List.not_mem_nil
    case tickets => exact fun x h => absurd h List.not_mem_nil
  case dispatch => exact fun e r o h => started_opened h r o
  case send => exact fun e r o h => started_opened h r o
  case finish => exact fun e n x hx _ h => started_closed hx h

end Instrument

namespace Session

open Instrument

variable (c : ObserveConfig) (tell : Event → σ → σ) (t : Transport σ τ)

/-- The ledger of a run over an instrumented transport. -/
def ledger (world : σ) (defaults : Options) (ops : List Operation) : Ledger :=
  ((start (ledgered c tell t) (world, {}) defaults).run ops).surroundings.2

/-- What a replay begins with. -/
def replaying (paces : List Pace) (defaults : Options) :
    Session (List Pace × Ledger) (Ticket Nat) :=
  start (replayed c) (paces, {}) defaults.masked

/-- Alike options have the same replays. -/
theorem replaying_eq {o o' : Options} (h : o.Alike o') (paces : List Pace) :
    replaying c paces o = replaying c paces o' := by
  rw [replaying, Options.masked_eq_iff.mpr h]
  rfl

/-- But for keys and times, a run has the ledger of its replay. -/
theorem ledger_seen (world : σ) (defaults : Options) (ops : List Operation) :
    let l := ledger c tell t world defaults ops
    l.seen = ((replaying c (l.deeds.map Deed.pace) defaults).run
      (ops.map Veil.mask.operation)).surroundings.2 := by
  intro l
  have hrun := run_veiled (s := start (ledgered c tell t) (world, {}) defaults) ops
    (shows_replayed (l.deeds.map Deed.pace)) List.prefix_rfl
  exact (congrArg (fun s => s.surroundings.2) hrun).symm

/-- And its answers are those of its replay. -/
theorem trace_replaying (world : σ) (defaults : Options) (ops : List Operation) :
    let l := ledger c tell t world defaults ops
    ((replaying c (l.deeds.map Deed.pace) defaults).trace
        (ops.map Veil.mask.operation)).map Prod.snd
      = ((start (Instrument.transport c tell t) world defaults).trace ops).map Prod.snd := by
  intro l
  have htrace := trace_veiled (s := start (ledgered c tell t) (world, {}) defaults) ops
    (shows_replayed (l.deeds.map Deed.pace)) List.prefix_rfl
  have hledger := trace_of_projects (projects_ledgered c tell t) (world, {}) defaults ops
  have hveiled := congrArg (List.map Prod.snd) htrace
  rw [List.map_map] at hveiled
  rw [← hledger]
  exact hveiled

/-- A monitor is told of nothing but calls of whose start it was told. -/
theorem started_ledger (world : σ) (defaults : Options) (ops : List Operation) :
    ∀ e ∈ (ledger c tell t world defaults ops).events,
      Event.start e.call ∈ (ledger c tell t world defaults ops).events := by
  obtain ⟨us, hused⟩ := used_run (ledgered c tell t) (world, {}) defaults ops
  have hrun := congrArg (fun s => s.surroundings.2)
    (run_observed (ledgered c tell t) (world, {}) defaults ops)
  have hstate : ledger c tell t world defaults ops
      = (Exchanges.ofUses (ledgered c tell t) (world, {}) us).state.2 :=
    hrun.trans (congrArg Prod.snd hused.state)
  rw [hstate]
  exact (started_of world us).told

end Session

/-- Clients that are created with keys of their own have alike options.  Take any
two runs over instrumented transports, whatever these are, whose options are alike
from the client to the refinement, and in which the transports inside have the same
paces.  Whatever a monitor is told of calls in one run it is told in the other: the
starts and the ends are told in the same order with the same logs, and a log that
comes with a slow call is that of a start in either run.  The requests differ in
the keys of their options only, their bodies not at all, and the caller gets the
same answers. -/
theorem credential_noninterference :
    (∀ {κ ν υ : Type} (net : Http.Network κ ν υ) url key key' o o',
      AlikeKeys (some key) (some key') → Options.Alike o o' →
      (∀ built, net.build {} = .ok built → ∃ client client',
        Client.create net url key o = .ok client ∧ Client.create net url key' o' = .ok client' ∧
        client.carrier = client'.carrier ∧ client.defaults.Alike client'.defaults) ∧
      ∀ message, net.build {} = .error message →
        Client.create net url key o = .error (.http message) ∧
        Client.create net url key' o' = .error (.http message)) ∧
    ∀ {σ τ σ' τ' : Type} (c : ObserveConfig) (tell : Event → σ → σ) (t : Transport σ τ) (world : σ)
      (tell' : Event → σ' → σ') (t' : Transport σ' τ') (world' : σ')
      (o o' : Options) (ops ops' : List Operation),
      o.Alike o' → List.Forall₂ Operation.Alike ops ops' →
      let l := Session.ledger c tell t world o ops
      let l' := Session.ledger c tell' t' world' o' ops'
      l.deeds.map Deed.pace = l'.deeds.map Deed.pace →
      l.events.filterMap Event.untimed? = l'.events.filterMap Event.untimed? ∧
      (∀ e ∈ l.events, Event.start e.call ∈ l'.events) ∧
      (∀ e ∈ l'.events, Event.start e.call ∈ l.events) ∧
      List.Forall₂ Deed.Alike l.deeds l'.deeds ∧
      l.deeds.filterMap Deed.body? = l'.deeds.filterMap Deed.body? ∧
      ((Session.start (Instrument.transport c tell t) world o).trace ops).map Prod.snd
        = ((Session.start (Instrument.transport c tell' t') world' o').trace ops').map Prod.snd := by
  refine ⟨?_, ?_⟩
  · intro κ ν υ net url key key' o o' hkey ho
    refine ⟨?_, ?_⟩
    · intro built hbuilt
      have hdefaults := (Options.Alike.of_apiKey url hkey).merge ho
      have hbase := congrArg Options.baseUrl (Options.masked_eq_iff.mpr hdefaults)
      refine ⟨_, _, Client.create_of_ok hbuilt url key o, Client.create_of_ok hbuilt url key' o',
        ?_, hdefaults⟩
      exact congrArg (fun base : Option String =>
        ({ client := built, config := { baseUrl := base.getD "" } } : Http.Carrier κ)) hbase
    · intro message hmessage
      exact ⟨Client.create_of_error hmessage url key o, Client.create_of_error hmessage url key' o'⟩
  · intro σ τ σ' τ' c tell t world tell' t' world' o o' ops ops' ho hops l l' hpaces
    have hreplay : Session.replaying c (l.deeds.map Deed.pace) o
        = Session.replaying c (l'.deeds.map Deed.pace) o' := by
      rw [Session.replaying_eq c ho, hpaces]
    have hops' := Operation.map_masked_of_forall₂ hops
    have hseen : l.seen = l'.seen := by
      rw [Session.ledger_seen, Session.ledger_seen, hreplay, hops']
    have hmasked : l.deeds.map Deed.masked = l'.deeds.map Deed.masked :=
      congrArg Ledger.deeds hseen
    refine ⟨congrArg Ledger.events hseen, ?_, ?_, ?_, ?_, ?_⟩
    · exact Ledger.start_mem_of_seen hseen (Session.started_ledger c tell t world o ops)
    · exact Ledger.start_mem_of_seen hseen.symm
        (Session.started_ledger c tell' t' world' o' ops')
    · exact Deed.forall₂_of_masked hmasked
    · exact Deed.bodies_of_masked hmasked
    · rw [← Session.trace_replaying, ← Session.trace_replaying, hreplay, hops']

/-- Options with a key in a field and in a header. -/
def keyedOptions (key : String) : Options :=
  { supabaseKey := some key, headers := SortedMap.empty.insert "ApiKey" key }

/-- A fetch with keys of its own. -/
def keyedFetch (key : String) : List Operation :=
  [.openQuery "users" "users", .fetch "users" { options := some (keyedOptions key) } none]

/-- The monitor is told of one call, and of the same call, whichever the keys are. -/
theorem credential_noninterference_keyedFetch :
    let run (key : String) := Session.ledger { enabled := true } (fun _ s => s) Script.transport {}
      { apiKey := some key } (keyedFetch key)
    (run "first").deeds.map Deed.pace = (run "second").deeds.map Deed.pace ∧
      (run "first").events.length = 2 ∧
      (run "first").events.filterMap Event.untimed?
        = (run "second").events.filterMap Event.untimed? := by
  intro run
  have hdefaults : Options.Alike { apiKey := some "first" } { apiKey := some "second" } :=
    Options.masked_eq_iff.mp rfl
  have hname : "ApiKey".toLower ∈ CallLog.secretNames := by
    have hlower : "ApiKey".toLower = "apikey" := by
      rw [← String.toList_inj, toList_toLower]
      rfl
    rw [hlower]
    decide
  have hfetch : ∀ key, (keyedOptions key).masked = keyedOptions (concealed key) := by
    intro key
    rw [Options.masked, keyedOptions, SortedMap.mapValues_insert, Options.shown, if_pos hname]
    rfl
  have hops : List.Forall₂ Operation.Alike (keyedFetch "first") (keyedFetch "second") := by
    refine .cons (.same _) (.cons (.fetch "users" .all false none (.some ?_)) .nil)
    rw [← Options.masked_eq_iff, hfetch, hfetch]
    rfl
  have hpaces : (run "first").deeds.map Deed.pace = (run "second").deeds.map Deed.pace := rfl
  obtain ⟨hevents, -⟩ := credential_noninterference.2 { enabled := true } (fun _ s => s)
    Script.transport {} (fun _ s => s) Script.transport {} { apiKey := some "first" }
    { apiKey := some "second" } (keyedFetch "first") (keyedFetch "second") hdefaults hops hpaces
  exact ⟨hpaces, rfl, hevents⟩

end TableGateway
