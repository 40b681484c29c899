/-
Outbound messages: what calls over HTTP hand to the network.

A call hands over one message, or none if its headers cannot be sent; turning its ticket
in hands over nothing (`Http.Carrier.handed_take`, `handed_finish`).  So what the network
is handed in a run are the messages of the requests that the transport receives, in their
order (`Session.handed_run`), and each says what its request is and goes to the address
that its options name (`Http.Carrier.carries_outgoing`).  The addresses are those that are
traced (`Session.traced_run`).

The address that a carrier was set up with is for calls whose options name none.  A run
in which no request comes without one goes the same over all carriers that differ in
nothing else (`Session.run_of_received`).
-/
import TableGateway.Proofs.Exchanges
import TableGateway.Proofs.Refusal

namespace TableGateway

variable {κ ν υ : Type}

/-! ## Addresses -/

/-- The address of an endpoint below a base, of which one slash at its end is left out. -/
inductive Endpoint.Below (e : Endpoint) : String → String → Prop
  | slash (stem : String) : Below e (stem ++ "/") (stem ++ e.path)
  | plain {base : String} (h : ∀ stem, base ≠ stem ++ "/") : Below e base (base ++ e.path)

namespace Endpoint

theorem withoutSlash_concat (stem : String) : withoutSlash (stem ++ "/") = stem := by
  have hrev : (stem ++ "/").toList.reverse = '/' :: stem.toList.reverse := by
    rw [String.toList_append, List.reverse_append]
    rfl
  simp only [withoutSlash, hrev, List.reverse_reverse, String.ofList_toList]

theorem withoutSlash_of_ne {base : String} (h : ∀ stem, base ≠ stem ++ "/") :
    withoutSlash base = base := by
  unfold withoutSlash
  split
  case h_1 rest hrev =>
    refine absurd ?_ (h (String.ofList rest.reverse))
    apply String.toList_injective
    rw [← List.reverse_reverse base.toList, hrev, List.reverse_cons, String.toList_append,
      String.toList_ofList]
    rfl
  case h_2 => rfl

theorem below_iff {e : Endpoint} {base url : String} : e.Below base url ↔ url = e.url base := by
  constructor
  · intro h
    cases h with
    | slash stem => rw [Endpoint.url, withoutSlash_concat]
    | plain h => rw [Endpoint.url, withoutSlash_of_ne h]
  · rintro rfl
    by_cases h : ∃ stem, base = stem ++ "/"
    · obtain ⟨stem, rfl⟩ := h
      rw [Endpoint.url, withoutSlash_concat]
      exact .slash stem
    · have hne : ∀ stem, base ≠ stem ++ "/" := fun stem hstem => h ⟨stem, hstem⟩
      rw [Endpoint.url, withoutSlash_of_ne hne]
      exact .plain hne

end Endpoint

namespace Http

/-! ## Traces of messages -/

/-- The address in a trace event about a message that goes out. -/
def sentTo? (t : Trace) : Option String :=
  match t.fields with
  | [("endpoint", _), ("url", url), ("message", _)] => some url
  | _ => none

namespace World

/-- The addresses in the trace events so far. -/
def sentTo (s : World ν) : List String := s.traces.filterMap sentTo?

theorem sentTo_traceSending (s : World ν) (e : Endpoint) (url : String) :
    (s.traceSending e url).sentTo = s.sentTo ++ [url] := by
  simp only [sentTo, traceSending, trace, List.filterMap_append]
  rfl

theorem sentTo_traceResponse (s : World ν) (e : Endpoint) (r : Response) :
    (s.traceResponse e r).sentTo = s.sentTo := by
  simp only [sentTo, traceResponse, trace, List.filterMap_append]
  exact List.append_nil _

end World

/-! ## The message of a call -/

theorem methodOf_eq (e : Endpoint) : methodOf e = e.method := by
  cases e <;> rfl

/-- The message asks for the request under the options: it has all their headers, and goes
below the address that they name. -/
structure Outgoing.Carries (out : Outgoing) (r : Request) (o : Options) : Prop where
  method : out.method = r.endpoint.method
  url : ∃ base, o.baseUrl = some base ∧ r.endpoint.Below base out.url
  headers : out.headers = .ofOptions o
  body : out.body = r.wireText

/-- All headers can be sent. -/
def FieldRules.sendsAll (rules : FieldRules) (headers : Headers) : Bool :=
  headers.entries.all fun p => rules.Sendable p.1 p.2

theorem FieldRules.sendsAll_iff {rules : FieldRules} {headers : Headers} :
    rules.sendsAll headers = true
      ↔ ∀ name value, headers.get? name = some value → rules.Sendable name value := by
  simp only [sendsAll, List.all_eq_true, decide_eq_true_eq, SortedMap.get?_eq_some_iff,
    Prod.forall]

namespace Carrier

variable {net : Network κ ν υ} {x : Carrier κ}

theorem carries_outgoing {r : Request} {o : Options} {base : String} (h : o.baseUrl = some base) :
    (x.outgoing r o (.ofOptions o)).Carries r o := by
  have hurl : x.config.url r.endpoint o = r.endpoint.url base := by
    rw [Config.url, h, Option.getD_some]
  simp only [outgoing, hurl]
  exact ⟨methodOf_eq r.endpoint, ⟨base, h, Endpoint.below_iff.mpr rfl⟩, rfl, rfl⟩

/-- What a call hands over, with the client that it comes from. -/
def message? (net : Network κ ν υ) (x : Carrier κ) (content : Request × Options) :
    Option (κ × Outgoing) :=
  if net.rules.sendsAll (.ofOptions content.2) then
    some (x.client, x.outgoing content.1 content.2 (.ofOptions content.2))
  else none

/-- The messages of some requests are those of the ones whose headers can be sent. -/
theorem filterMap_message? (net : Network κ ν υ) (x : Carrier κ)
    (contents : List (Request × Options)) :
    contents.filterMap (x.message? net)
      = (contents.filter fun content => net.rules.sendsAll (.ofOptions content.2)).map
          fun content => (x.client, x.outgoing content.1 content.2 (.ofOptions content.2)) := by
  induction contents with
  | nil => rfl
  | cons content rest ih =>
      rw [List.filterMap_cons, List.filter_cons, message?]
      by_cases h : net.rules.sendsAll (.ofOptions content.2) = true
      · simp only [if_pos h, ih, List.map_cons]
      · simp only [if_neg h, ih]

theorem handed_take (net : Network κ ν υ) (x : Carrier κ) (r : Request) (o : Options) (s : World (ν × List (κ × Outgoing))) :
    let sent := (x.message? net (r, o)).toList
    let s' := (x.take net.recorded r o s).1
    s'.network.2 = s.network.2 ++ sent ∧ s'.sentTo = s.sentTo ++ sent.map fun p => p.2.url := by
  intro sent s'
  rcases FieldRules.fieldsOf_cases net.rules o with ⟨fault, hrefused, hfields⟩ | ⟨hsend, hfields⟩
  · obtain ⟨name, value, hget, hrefuses, -⟩ := hrefused
    have hnot : ¬net.rules.sendsAll (.ofOptions o) = true := fun h =>
      hrefuses.not_sendable (FieldRules.sendsAll_iff.mp h name value hget)
    have hsent : sent = [] := congrArg Option.toList (if_neg hnot)
    have hstate : s' = s := congrArg Prod.fst (take_of_error net.recorded hfields s)
    rw [hstate, hsent]
    exact ⟨(List.append_nil _).symm, (List.append_nil _).symm⟩
  · have hsent : sent = [(x.client, x.outgoing r o (.ofOptions o))] :=
      congrArg Option.toList (if_pos (FieldRules.sendsAll_iff.mpr hsend))
    rw [show s' = _ from congrArg Prod.fst (take_of_ok net.recorded hfields s), hsent]
    exact ⟨rfl, World.sentTo_traceSending s r.endpoint (x.outgoing r o (.ofOptions o)).url⟩

theorem handed_finish (net : Network κ ν υ) (ticket : Ticket υ) (s : World (ν × List (κ × Outgoing))) :
    let s' := (finish net.recorded ticket s).1
    s'.network.2 = s.network.2 ∧ s'.sentTo = s.sentTo := by
  cases ticket with
  | refused fault => exact ⟨rfl, rfl⟩
  | sent e ticket => exact ⟨rfl, World.sentTo_traceResponse _ e _⟩

/-- The network has been handed the messages of the requests that were taken, and their
addresses have been traced. -/
structure HandedOn (net : Network κ ν υ) (x : Carrier κ)
    (before : World (ν × List (κ × Outgoing)))
    (e : Exchanges (World (ν × List (κ × Outgoing))) (Ticket υ)) : Prop where
  handed : e.state.network.2
    = before.network.2 ++ (e.calls.map Exchange.content).filterMap (x.message? net)
  traced : e.state.sentTo
    = before.sentTo
      ++ ((e.calls.map Exchange.content).filterMap (x.message? net)).map fun p => p.2.url

theorem handedOn_opened {before : World (ν × List (κ × Outgoing))}
    {e : Exchanges (World (ν × List (κ × Outgoing))) (Ticket υ)} (h : x.HandedOn net before e)
    (r : Request) (o : Options) :
    x.HandedOn net before (e.opened r o (x.take net.recorded r o e.state)) := by
  obtain ⟨hnetwork, htraces⟩ := x.handed_take net r o e.state
  have hone : [(r, o)].filterMap (x.message? net) = (x.message? net (r, o)).toList := by
    rw [List.filterMap_cons]
    cases x.message? net (r, o) <;> rfl
  constructor
  case handed =>
    simp only [Exchanges.opened, hnetwork, h.handed, List.map_append, List.map_cons, List.map_nil,
      Exchange.content, List.filterMap_append, hone, List.append_assoc]
  case traced =>
    simp only [Exchanges.opened, htraces, h.traced, List.map_append, List.map_cons, List.map_nil,
      Exchange.content, List.filterMap_append, hone, List.append_assoc]

theorem handed_ofUses (net : Network κ ν υ) (x : Carrier κ)
    (s : World (ν × List (κ × Outgoing))) (us : List Use) :
    x.HandedOn net s (.ofUses (x.transport net.recorded) s us) := by
  apply Exchanges.ofUses_induction
  case start => exact ⟨(List.append_nil _).symm, (List.append_nil _).symm⟩
  case dispatch =>
    intro e r o h
    rw [dispatch_transport]
    exact handedOn_opened h r o
  case send =>
    intro e r o h
    have hsend : (x.transport net.recorded).send r o = x.take net.recorded r o :=
      congrFun (dispatch_transport net.recorded x r) o
    rw [hsend]
    exact handedOn_opened h r o
  case finish =>
    intro e n call hcall _ h
    obtain ⟨hnetwork, htraces⟩ := handed_finish net call.ticket e.state
    constructor
    case handed => rw [Exchanges.content_closed hcall, ← h.handed, ← hnetwork]; rfl
    case traced => rw [Exchanges.content_closed hcall, ← h.traced, ← htraces]; rfl

end Carrier

/-! ## The network without its list -/

/-- The world with an empty list of what is handed over. -/
def World.recording (w : World ν) : World (ν × List (κ × Outgoing)) :=
  { w with network := (w.network, []) }

/-- The world without that list. -/
def World.unrecorded (w : World (ν × List (κ × Outgoing))) : World ν :=
  { w with network := w.network.1 }

/-- The list is all that is added. -/
theorem Carrier.projects_recorded (net : Network κ ν υ) (x : Carrier κ) :
    (x.transport net.recorded).Projects (x.transport net) World.unrecorded id where
  dispatch r o s := by
    rw [dispatch_transport, dispatch_transport]
    cases h : net.rules.fieldsOf (.ofOptions o) with
    | error fault =>
        rw [take_of_error net h, take_of_error net.recorded h]
        rfl
    | ok fields =>
        rw [take_of_ok net h, take_of_ok net.recorded h]
        rfl
  polls ticket := by cases ticket <;> rfl
  finish ticket s := by cases ticket <;> rfl

end Http

/-! ## Runs -/

namespace Session

open Http

/-- What the network is handed in a run. -/
def handed (net : Network κ ν υ) (x : Carrier κ) (w : World ν) (defaults : Options)
    (ops : List Operation) : List (κ × Outgoing) :=
  ((start (x.transport net.recorded) w.recording defaults).run ops).surroundings.network.2

theorem handedOn_run (net : Network κ ν υ) (x : Carrier κ) (w : World ν) (defaults : Options)
    (ops : List Operation) :
    ∃ e, x.HandedOn net w.recording e ∧
      e.state = ((start (x.transport net.recorded) w.recording defaults).run ops).surroundings ∧
      e.calls.map Exchange.content = (traffic (x.transport net) w defaults ops).received := by
  obtain ⟨us, hused⟩ := used_run (x.transport net.recorded) w.recording defaults ops
  have hrun := congrArg surroundings
    (run_observed (x.transport net.recorded) w.recording defaults ops)
  have htraffic := traffic_of_projects (x.projects_recorded net) w.recording defaults ops
  exact ⟨_, x.handed_ofUses net w.recording us, (hrun.trans hused.state).symm,
    hused.received.symm.trans (congrArg Traffic.received htraffic)⟩

theorem handed_run (net : Network κ ν υ) (x : Carrier κ) (w : World ν) (defaults : Options)
    (ops : List Operation) :
    handed net x w defaults ops
      = (traffic (x.transport net) w defaults ops).received.filterMap (x.message? net) := by
  obtain ⟨e, hhanded, hstate, hcalls⟩ := handedOn_run net x w defaults ops
  rw [handed, ← hstate, ← hcalls]
  exact hhanded.handed

/-- The addresses that are traced in a run are those of the messages that go out. -/
theorem traced_run (net : Network κ ν υ) (x : Carrier κ) (w : World ν) (defaults : Options)
    (ops : List Operation) :
    ((start (x.transport net) w defaults).run ops).surroundings.sentTo
      = w.sentTo ++ (handed net x w defaults ops).map fun p => p.2.url := by
  obtain ⟨e, hhanded, hstate, hcalls⟩ := handedOn_run net x w defaults ops
  have hrun := congrArg surroundings (run_through
    (s := start (x.transport net.recorded) w.recording defaults) ops (x.projects_recorded net))
  have htraces := congrArg World.sentTo hrun
  rw [handed_run, ← hcalls]
  exact htraces.trans ((congrArg World.sentTo hstate.symm).trans hhanded.traced)

section

variable {σ τ : Type} {t t' : Transport σ τ} {P : Request × Options → Prop}

/-- Transports that differ in nothing but how they take requests of which none is received
cannot be told apart in a run. -/
theorem run_of_received (hdispatch : ∀ r o s, P (r, o) → t'.dispatch r o s = t.dispatch r o s)
    (hpolls : t'.polls = t.polls) (hfinish : t'.finish = t.finish) {surroundings : σ}
    {defaults : Options} {ops : List Operation}
    (hreceived : ∀ content ∈ (traffic t surroundings defaults ops).received, P content) :
    (start t' surroundings defaults).trace ops = (start t surroundings defaults).trace ops ∧
      ((start t' surroundings defaults).run ops).surroundings
        = ((start t surroundings defaults).run ops).surroundings := by
  have hshows : t.recorded.Shows .clear t' Prod.fst Prod.fst
      fun s => ∀ content ∈ s.2.received, P content := by
    constructor
    case dispatch =>
      intro r o s hgood
      rw [Transport.dispatch_recorded] at hgood ⊢
      exact hdispatch r o s.1 (hgood _ (List.mem_append_right _ (List.mem_singleton_self _)))
    case polls => exact fun ticket => congrFun hpolls ticket.1
    case finish => exact fun ticket s _ => congrFun (congrFun hfinish ticket.1) s.1
    case good_of_dispatch =>
      intro r o s hgood content hcontent
      rw [Transport.dispatch_recorded] at hgood
      exact hgood content (List.mem_append_left _ hcontent)
    case good_of_finish => exact fun _ _ hgood => hgood
  have hrun := run_veiled (s := observed t surroundings defaults) ops hshows hreceived
  have htrace := trace_veiled (s := observed t surroundings defaults) ops hshows hreceived
  rw [Veil.map_operation_clear] at hrun htrace
  have hsame : ∀ p : Operation × Except Refusal Outcome, Prod.map Veil.clear.operation id p = p :=
    fun p => Prod.ext (Veil.operation_clear p.1) rfl
  rw [List.map_congr_left fun p _ => hsame p, List.map_id'] at htrace
  rw [trace_observed t, run_observed t]
  have hsurroundings := congrArg Session.surroundings hrun
  exact ⟨htrace, hsurroundings⟩

end

end Session

end TableGateway
