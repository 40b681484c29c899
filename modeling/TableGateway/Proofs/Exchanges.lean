/-
Exchanges: a transport used directly, call by call.

Anyone may hand a transport requests of all kinds, and turn the tickets for them
in, in any order, each once or never (`Exchanges.ofUses`).  What passes is told
by moments: a call has one when it is opened, and one more when it is closed,
which both say what the transport was asked (`Exchanges.moments_of`).  Sessions
do nothing else with their transports: every run of one is such a use
(`Session.used_run`).
-/
import TableGateway.Proofs.SingleFlight

namespace TableGateway

variable {σ σ' τ τ' : Type}

/-- Setting what is there changes nothing. -/
theorem set_eq_self {α : Type} {l : List α} {k : Nat} {a : α} (h : l[k]? = some a) :
    l.set k a = l := by
  obtain ⟨hlt, rfl⟩ := List.getElem?_eq_some_iff.mp h
  exact List.set_getElem_self hlt

/-- What a list with one more item has at a place, it had there before, or it is
the new item. -/
theorem getElem?_concat_eq_some {α : Type} {l : List α} {n : Nat} {a b : α}
    (h : (l ++ [a])[n]? = some b) : l[n]? = some b ∨ n = l.length ∧ b = a := by
  rw [List.getElem?_append] at h
  split at h
  case isTrue => exact Or.inl h
  case isFalse hn =>
    obtain ⟨hlt, rfl⟩ := List.getElem?_eq_some_iff.mp h
    rw [List.length_singleton] at hlt
    exact Or.inr ⟨by omega, List.getElem_singleton _⟩

/-- What is done with a transport: a request goes to the operation of its endpoint
or to the one for any request, or the ticket of a call is turned in. -/
inductive Use where
  | dispatch (r : Request) (o : Options)
  | send (r : Request) (o : Options)
  | finish (n : Nat)

/-- A call that the transport has taken, and its response once there is one. -/
structure Exchange (τ : Type) where
  request : Request
  options : Options
  ticket : τ
  answer : Option Response := none

/-- What passes between a transport and whoever uses it. -/
inductive Moment where
  | opened (n : Nat) (r : Request) (o : Options)
  | closed (n : Nat) (r : Request) (o : Options) (response : Response) (elapsed : Duration)

namespace Moment

/-- The call that the moment belongs to. -/
def number : Moment → Nat
  | opened n _ _ => n
  | closed n _ _ _ _ => n

/-- The response that is given, with the number of its call. -/
def answer? : Moment → Option (Nat × Response)
  | opened _ _ _ => none
  | closed n _ _ response _ => some (n, response)

end Moment

namespace Exchange

def content (x : Exchange τ) : Request × Options := (x.request, x.options)

/-- The moments of a call: it is opened, and closed when it has its response. -/
def moments (t : Transport σ τ) (n : Nat) (x : Exchange τ) : List Moment :=
  .opened n x.request x.options
    :: (x.answer.map fun response =>
        Moment.closed n x.request x.options response (t.elapsed x.ticket)).toList

end Exchange

/-- The state of a transport, the calls that it has taken, by number, and all that
has passed. -/
structure Exchanges (σ τ : Type) where
  state : σ
  calls : List (Exchange τ) := []
  moments : List Moment := []

namespace Exchanges

/-- The transport has taken a request, and its call gets the next number. -/
def opened (e : Exchanges σ τ) (r : Request) (o : Options) (taken : σ × τ) : Exchanges σ τ where
  state := taken.1
  calls := e.calls ++ [{ request := r, options := o, ticket := taken.2 }]
  moments := e.moments ++ [.opened e.calls.length r o]

/-- The ticket of a call is turned in. -/
def closed (t : Transport σ τ) (e : Exchanges σ τ) (n : Nat) (x : Exchange τ) : Exchanges σ τ where
  state := (t.finish x.ticket e.state).1
  calls := e.calls.set n { x with answer := some (t.finish x.ticket e.state).2 }
  moments := e.moments ++ [.closed n x.request x.options (t.finish x.ticket e.state).2
    (t.elapsed x.ticket)]

/-- A ticket can be turned in once. -/
def use (t : Transport σ τ) (e : Exchanges σ τ) : Use → Exchanges σ τ
  | .dispatch r o => e.opened r o (t.dispatch r o e.state)
  | .send r o => e.opened r o (t.send r o e.state)
  | .finish n =>
      match e.calls[n]? with
      | none => e
      | some x => if x.answer.isNone then e.closed t n x else e

/-- What has passed after some uses, first one first. -/
def ofUses (t : Transport σ τ) (state : σ) (us : List Use) : Exchanges σ τ :=
  us.foldl (use t) { state }

theorem ofUses_concat (t : Transport σ τ) (state : σ) (us : List Use) (u : Use) :
    ofUses t state (us ++ [u]) = (ofUses t state us).use t u := by
  rw [ofUses, List.foldl_append]
  rfl

/-- A call that is closed asks for what it asked for. -/
theorem content_closed {t : Transport σ τ} {e : Exchanges σ τ} {n : Nat} {x : Exchange τ}
    (hx : e.calls[n]? = some x) :
    (e.closed t n x).calls.map Exchange.content = e.calls.map Exchange.content := by
  simp only [closed, List.map_set]
  apply set_eq_self
  rw [List.getElem?_map, hx]
  rfl

theorem use_finish {t : Transport σ τ} {e : Exchanges σ τ} {n : Nat} {x : Exchange τ}
    (hx : e.calls[n]? = some x) (hanswer : x.answer = none) :
    e.use t (.finish n) = e.closed t n x := by
  simp only [use, hx, hanswer, Option.isNone_none, if_true]

/-- What holds at the start and is kept when a request is taken and when a ticket
is turned in holds after any uses. -/
theorem ofUses_induction {t : Transport σ τ} {P : Exchanges σ τ → Prop} {state : σ}
    (start : P { state })
    (dispatch : ∀ e r o, P e → P (e.opened r o (t.dispatch r o e.state)))
    (send : ∀ e r o, P e → P (e.opened r o (t.send r o e.state)))
    (finish : ∀ e n x, e.calls[n]? = some x → x.answer = none → P e → P (e.closed t n x))
    (us : List Use) : P (ofUses t state us) := by
  induction us using List.reverseRecOn with
  | nil => exact start
  | append_singleton us u ih =>
      rw [ofUses_concat]
      cases u with
      | dispatch r o => exact dispatch _ r o ih
      | send r o => exact send _ r o ih
      | finish n =>
          simp only [use]
          cases hx : (ofUses t state us).calls[n]? with
          | none => exact ih
          | some x =>
              dsimp only
              split
              case isTrue hanswer => exact finish _ n x hx (Option.isNone_iff_eq_none.mp hanswer) ih
              case isFalse => exact ih

/-! ## The moments of a call -/

/-- The moments of each call are those that its exchange tells of, in their order. -/
def Told (t : Transport σ τ) (e : Exchanges σ τ) : Prop :=
  ∀ n, e.moments.filter (fun m => m.number = n) = (e.calls[n]?).elim [] (Exchange.moments t n)

theorem told_opened {t : Transport σ τ} {e : Exchanges σ τ} (h : e.Told t) (r : Request)
    (o : Options) (taken : σ × τ) : (e.opened r o taken).Told t := by
  intro n
  have hn := h n
  simp only [opened, List.filter_append, hn]
  by_cases heq : e.calls.length = n
  · subst heq
    rw [List.getElem?_eq_none (Nat.le_refl _), List.getElem?_concat_length]
    simp [Moment.number, Exchange.moments]
  · have hnone : [Moment.opened e.calls.length r o].filter (fun m => m.number = n) = [] := by
      simp [Moment.number, heq]
    have hcalls : (e.calls ++ [{ request := r, options := o, ticket := taken.2 }])[n]?
        = e.calls[n]? := by
      rcases Nat.lt_or_ge n e.calls.length with hlt | hge
      · exact List.getElem?_append_left hlt
      · rw [List.getElem?_eq_none hge, List.getElem?_eq_none]
        rw [List.length_append, List.length_singleton]
        omega
    rw [hnone, List.append_nil, hcalls]

theorem told_closed {t : Transport σ τ} {e : Exchanges σ τ} {k : Nat} {x : Exchange τ}
    (hx : e.calls[k]? = some x) (hanswer : x.answer = none) (h : e.Told t) :
    (e.closed t k x).Told t := by
  intro n
  have hn := h n
  simp only [closed, List.filter_append, hn, List.getElem?_set]
  by_cases heq : k = n
  · subst heq
    obtain ⟨hlt, rfl⟩ := List.getElem?_eq_some_iff.mp hx
    simp [hlt, Exchange.moments, hanswer, Moment.number]
  · simp [heq, Moment.number]

/-- A call is opened once, before all else, and closed once or never. -/
theorem moments_of (t : Transport σ τ) (state : σ) (us : List Use) : (ofUses t state us).Told t :=
  ofUses_induction (P := fun e => e.Told t) (fun _ => rfl) (fun _ r o h => told_opened h r o _)
    (fun _ r o h => told_opened h r o _) (fun _ _ _ hx hanswer h => told_closed hx hanswer h) us

end Exchanges

/-! ## Transports that look alike -/

/-- Looked at through `f` and `g` the transport is the other one in all respects. -/
structure Transport.Mirrors (t' : Transport σ' τ') (t : Transport σ τ) (f : σ' → σ)
    (g : τ' → τ) : Prop extends t'.Projects t f g where
  send : ∀ r o s, t.send r o (f s) = Prod.map f g (t'.send r o s)
  elapsed : ∀ ticket, t.elapsed (g ticket) = t'.elapsed ticket

namespace Exchanges

/-- What has passed is the same, and the rest is looked at through `f` and `g`. -/
def through (f : σ' → σ) (g : τ' → τ) (e : Exchanges σ' τ') : Exchanges σ τ where
  state := f e.state
  calls := e.calls.map fun x =>
    { request := x.request, options := x.options, ticket := g x.ticket, answer := x.answer }
  moments := e.moments

variable {t' : Transport σ' τ'} {t : Transport σ τ} {f : σ' → σ} {g : τ' → τ}

theorem opened_through (e : Exchanges σ' τ') (r : Request) (o : Options) (taken : σ' × τ') :
    (e.opened r o taken).through f g = (e.through f g).opened r o (Prod.map f g taken) := by
  simp only [through, opened, List.map_append, List.length_map, Prod.map_fst, Prod.map_snd]
  rfl

theorem closed_through (h : t'.Mirrors t f g) (e : Exchanges σ' τ') (n : Nat) (x : Exchange τ') :
    (e.closed t' n x).through f g = (e.through f g).closed t n
      { request := x.request, options := x.options, ticket := g x.ticket, answer := x.answer } := by
  simp only [through, closed, List.map_set, h.finish, h.elapsed, Prod.map_fst, Prod.map_snd, id]

theorem use_through (h : t'.Mirrors t f g) (e : Exchanges σ' τ') (u : Use) :
    (e.use t' u).through f g = (e.through f g).use t u := by
  cases u with
  | dispatch r o =>
      show (e.opened r o _).through f g = (e.through f g).opened r o (t.dispatch r o (f e.state))
      rw [opened_through, h.dispatch]
  | send r o =>
      show (e.opened r o _).through f g = (e.through f g).opened r o (t.send r o (f e.state))
      rw [opened_through, h.send]
  | finish n =>
      have hcalls : (e.through f g).calls[n]? = e.calls[n]?.map fun x =>
          { request := x.request, options := x.options, ticket := g x.ticket, answer := x.answer } :=
        List.getElem?_map
      unfold use
      dsimp only
      rw [hcalls]
      cases e.calls[n]? with
      | none => rfl
      | some x =>
          dsimp only [Option.map_some]
          split
          · exact closed_through h e n x
          · rfl

theorem ofUses_through (h : t'.Mirrors t f g) (state : σ') (us : List Use) :
    (ofUses t' state us).through f g = ofUses t (f state) us := by
  induction us using List.reverseRecOn with
  | nil => rfl
  | append_singleton us u ih => rw [ofUses_concat, ofUses_concat, use_through h, ih]

end Exchanges

/-- A record does not stand in the way of looking at a transport. -/
theorem Transport.Projects.recorded {t' : Transport σ' τ'} {t : Transport σ τ} {f : σ' → σ}
    {g : τ' → τ} (h : t'.Projects t f g) :
    t'.recorded.Projects t.recorded (Prod.map f id) (Prod.map g id) where
  dispatch r o s := by
    have hd := h.dispatch r o s.1
    simp only [dispatch_recorded, receive, Prod.map_fst, Prod.map_snd, hd]
    rfl
  polls ticket := h.polls ticket.1
  finish ticket s := by
    have hf := h.finish ticket.1 s.1
    show Transport.answer t.finish _ _ = Prod.map _ _ (Transport.answer t'.finish ticket s)
    simp only [answer, Prod.map_fst, Prod.map_snd, hf]
    rfl

/-! ## Sessions -/

namespace Session

open Exchanges

section

variable {t' : Transport σ' τ'} {t : Transport σ τ} {f : σ' → σ} {g : τ' → τ}

/-- Sessions over transports that look alike have the same outcomes. -/
theorem trace_of_projects (h : t'.Projects t f g) (surroundings : σ') (defaults : Options)
    (ops : List Operation) : (start t' surroundings defaults).trace ops
      = (start t (f surroundings) defaults).trace ops :=
  (trace_through (s := start t' surroundings defaults) ops h).symm

/-- And the same requests and responses pass. -/
theorem traffic_of_projects (h : t'.Projects t f g) (surroundings : σ') (defaults : Options)
    (ops : List Operation) :
    traffic t' surroundings defaults ops = traffic t (f surroundings) defaults ops := by
  have hrun := run_through (s := observed t' surroundings defaults) ops h.recorded
  exact (congrArg (fun s => s.surroundings.2) hrun).symm

end

/-- The session has used its transport in this way: what waits for a response has
a ticket of its own that was not turned in. -/
structure Used (t : Transport σ τ) (e : Exchanges σ τ) (s : Session (σ × Traffic) (τ × Nat)) :
    Prop where
  transport : s.transport = t.recorded
  state : s.surroundings.1 = e.state
  received : s.surroundings.2.received = e.calls.map Exchange.content
  answered : s.surroundings.2.answered = e.moments.filterMap Moment.answer?
  waiting : ∀ i ticket left, s.progress? i = some (.waiting ticket left) →
    ∃ x, e.calls[ticket.2]? = some x ∧ x.ticket = ticket.1 ∧ x.answer = none
  apart : ∀ i j ticket ticket' left left', s.progress? i = some (.waiting ticket left) →
    s.progress? j = some (.waiting ticket' left') → ticket.2 = ticket'.2 → i = j

variable {t : Transport σ τ} {e : Exchanges σ τ} {s : Session (σ × Traffic) (τ × Nat)}

theorem Used.length_received (h : s.Used t e) :
    s.surroundings.2.received.length = e.calls.length := by
  rw [h.received, List.length_map]

/-- The request of a call goes to the operation of its endpoint. -/
theorem used_sendCall {i : Nat} {c : Call (τ × Nat)} (hc : s.calls[i]? = some c)
    (h : s.Used t e) : (s.sendCall i).Used t (e.use t (.dispatch c.request c.options)) := by
  have hsurroundings := surroundings_sendCall h.transport hc
  have hticket := ticket_send h.transport c
  have hnew : ∀ j ticket left, s.progress? j = some (.waiting ticket left) →
      ticket.2 < e.calls.length := by
    intro j ticket left hj
    obtain ⟨x, hx, -⟩ := h.waiting j ticket left hj
    exact (List.getElem?_eq_some_iff.mp hx).1
  -- the call that is sent waits with the next number, and no other does
  have hself : ∀ ticket left, (s.sendCall i).progress? i = some (.waiting ticket left) →
      ticket = ((t.dispatch c.request c.options e.state).2, e.calls.length) := by
    intro ticket left hi
    rw [progress?_sendCall_self hc, hticket, h.length_received, h.state] at hi
    cases hi
    rfl
  have hother : ∀ j ticket left, i ≠ j →
      (s.sendCall i).progress? j = some (.waiting ticket left) →
        s.progress? j = some (.waiting ticket left) := by
    intro j ticket left hij hj
    rwa [progress?_sendCall_ne s hij] at hj
  constructor
  case transport => exact (steady_sendCall s i).transport.trans h.transport
  case state =>
    rw [hsurroundings, h.state]
    rfl
  case received =>
    rw [hsurroundings, h.received]
    simp only [use, opened, List.map_append]
    rfl
  case answered =>
    rw [hsurroundings, h.answered]
    simp only [use, opened, List.filterMap_append]
    exact (List.append_nil _).symm
  case waiting =>
    intro j ticket left hj
    by_cases hij : i = j
    · subst hij
      rw [hself ticket left hj]
      exact ⟨_, List.getElem?_concat_length, rfl, rfl⟩
    · obtain ⟨x, hx, hrest⟩ := h.waiting j ticket left (hother j ticket left hij hj)
      exact ⟨x, getElem?_append_of_eq_some hx _, hrest⟩
  case apart =>
    intro j k ticket ticket' left left' hj hk hsame
    by_cases hij : i = j
    · subst hij
      by_cases hik : i = k
      · exact hik
      · have hlt := hnew k ticket' left' (hother k ticket' left' hik hk)
        rw [← hsame, hself ticket left hj] at hlt
        exact absurd hlt (Nat.lt_irrefl _)
    · have hlt := hnew j ticket left (hother j ticket left hij hj)
      by_cases hik : i = k
      · subst hik
        rw [hsame, hself ticket' left' hk] at hlt
        exact absurd hlt (Nat.lt_irrefl _)
      · exact h.apart j k ticket ticket' left left' (hother j ticket left hij hj)
          (hother k ticket' left' hik hk) hsame

theorem used_wait {i left : Nat} {ticket : τ × Nat} (h : s.Used t e)
    (hp : s.progress? i = some (.waiting ticket (left + 1))) :
    (s.setProgress i (.waiting ticket left)).Used t e := by
  -- whatever waits has been waiting with the same ticket
  have hbefore : ∀ j ticket' left',
      (s.setProgress i (.waiting ticket left)).progress? j = some (.waiting ticket' left') →
        ∃ left'', s.progress? j = some (.waiting ticket' left'') := by
    intro j ticket' left' hj
    rw [progress?_setProgress] at hj
    split at hj
    case isTrue hij =>
      subst hij
      rw [hp] at hj
      cases hj
      exact ⟨_, hp⟩
    case isFalse => exact ⟨left', hj⟩
  refine ⟨h.transport, h.state, h.received, h.answered, ?_, ?_⟩
  · intro j ticket' left' hj
    obtain ⟨left'', hj⟩ := hbefore j ticket' left' hj
    exact h.waiting j ticket' left'' hj
  · intro j k ticket' ticket'' left' left'' hj hk
    obtain ⟨_, hj⟩ := hbefore j ticket' left' hj
    obtain ⟨_, hk⟩ := hbefore k ticket'' left'' hk
    exact h.apart j k ticket' ticket'' _ _ hj hk

theorem used_finishCall {i : Nat} {ticket : τ × Nat} (h : s.Used t e)
    (hp : s.progress? i = some (.waiting ticket 0)) :
    (s.finishCall i ticket).Used t (e.use t (.finish ticket.2)) := by
  obtain ⟨x, hx, hticket, hanswer⟩ := h.waiting i ticket 0 hp
  have hsurroundings := surroundings_finishCall h.transport i ticket
  have hother : ∀ j ticket' left,
      (s.finishCall i ticket).progress? j = some (.waiting ticket' left) →
        i ≠ j ∧ s.progress? j = some (.waiting ticket' left) := by
    intro j ticket' left hj
    rw [progress?_finishCall] at hj
    split at hj
    case isTrue hij =>
      subst hij
      rw [hp] at hj
      cases hj
    case isFalse hij => exact ⟨hij, hj⟩
  rw [use_finish hx hanswer]
  constructor
  case transport => exact (steady_finishCall s i ticket).transport.trans h.transport
  case state =>
    rw [hsurroundings, h.state, ← hticket]
    rfl
  case received =>
    rw [hsurroundings, h.received]
    exact (content_closed hx).symm
  case answered =>
    rw [hsurroundings, h.answered, h.state, ← hticket]
    simp only [closed, List.filterMap_append]
    rfl
  case waiting =>
    intro j ticket' left hj
    obtain ⟨hij, hj⟩ := hother j ticket' left hj
    obtain ⟨y, hy, hrest⟩ := h.waiting j ticket' left hj
    have hne : ticket.2 ≠ ticket'.2 := fun hsame =>
      hij (h.apart i j ticket ticket' 0 left hp hj hsame)
    refine ⟨y, ?_, hrest⟩
    show (e.calls.set ticket.2 _)[ticket'.2]? = some y
    rw [List.getElem?_set_ne hne, hy]
  case apart =>
    intro j k ticket' ticket'' left left' hj hk
    exact h.apart j k ticket' ticket'' left left' (hother j ticket' left hj).2
      (hother k ticket'' left' hk).2

/-- A session has used its transport in some way since it began. -/
def Uses (t : Transport σ τ) (state : σ) (s : Session (σ × Traffic) (τ × Nat)) : Prop :=
  ∃ us, s.Used t (ofUses t state us)

theorem uses_pollCall {state : σ} (h : s.Uses t state) (i : Nat) :
    (s.pollCall i).1.Uses t state := by
  refine pollCall_induction (P := fun s => s.Uses t state) i ?_ ?_ ?_ s h
  · rintro s hp ⟨us, hus⟩
    obtain ⟨c, hc, -⟩ := exists_call_of_progress? hp
    exact ⟨us ++ [.dispatch c.request c.options], ofUses_concat t state us _ ▸ used_sendCall hc hus⟩
  · rintro s ticket left hp ⟨us, hus⟩
    exact ⟨us, used_wait hus hp⟩
  · rintro s ticket hp ⟨us, hus⟩
    exact ⟨us ++ [.finish ticket.2], ofUses_concat t state us _ ▸ used_finishCall hus hp⟩

/-- A new call does not wait. -/
theorem used_newCall (h : s.Used t e) (r : Request) (o : Options) :
    (s.newCall r o).1.Used t e := by
  have hbefore : ∀ i ticket left,
      (s.newCall r o).1.progress? i = some (.waiting ticket left) →
        s.progress? i = some (.waiting ticket left) := by
    intro i ticket left hi
    rcases progress?_newCall hi with hi | ⟨-, hnew⟩
    · exact hi
    · cases hnew
  refine ⟨h.transport, h.state, h.received, h.answered, ?_, ?_⟩
  · intro i ticket left hi
    exact h.waiting i ticket left (hbefore i ticket left hi)
  · intro i j ticket ticket' left left' hi hj
    exact h.apart i j ticket ticket' left left' (hbefore i ticket left hi)
      (hbefore j ticket' left' hj)

/-- What does not touch the calls, the surroundings or the transport is no use of it. -/
theorem Uses.congr {state : σ} {s' : Session (σ × Traffic) (τ × Nat)} (h : s.Uses t state)
    (htransport : s'.transport = s.transport) (hsurroundings : s'.surroundings = s.surroundings)
    (hcalls : s'.calls = s.calls) : s'.Uses t state := by
  obtain ⟨us, h⟩ := h
  have hprogress : ∀ i, s'.progress? i = s.progress? i := fun i => by rw [progress?, hcalls]; rfl
  refine ⟨us, htransport.trans h.transport, ?_, ?_, ?_, ?_, ?_⟩
  · rw [hsurroundings]; exact h.state
  · rw [hsurroundings]; exact h.received
  · rw [hsurroundings]; exact h.answered
  · intro i ticket left hi
    exact h.waiting i ticket left (hprogress i ▸ hi)
  · intro i j ticket ticket' left left' hi hj
    exact h.apart i j ticket ticket' left left' (hprogress i ▸ hi) (hprogress j ▸ hj)

theorem keeps_uses (op : Operation) (t : Transport σ τ) (state : σ) :
    Keeps op fun s : Session (σ × Traffic) (τ × Nat) => s.Uses t state where
  query _ _ _ _ h := h.congr rfl rfl rfl
  describe _ _ _ h := h.congr rfl rfl rfl
  handle _ _ _ h := h.congr rfl rfl rfl
  refine _ _ _ _ _ h := h.congr rfl rfl rfl
  call _ r o h := by
    obtain ⟨us, hus⟩ := h
    exact ⟨us, used_newCall hus r o⟩
  resolve _ _ _ _ _ h := h.congr rfl rfl rfl
  keep _ _ _ h := h.congr rfl rfl rfl
  take _ _ h := h.congr rfl rfl rfl
  poll _ i h := uses_pollCall h i

/-- Whatever is done in a session, what its transport receives and gives is what
passes in some use of it. -/
theorem used_run (t : Transport σ τ) (surroundings : σ) (defaults : Options)
    (ops : List Operation) :
    ∃ us, ((observed t surroundings defaults).run ops).Used t (ofUses t surroundings us) :=
  run_induction (P := fun s => s.Uses t surroundings) (fun op _ => keeps_uses op t surroundings)
    ⟨[], rfl, rfl, rfl, rfl, nofun, nofun⟩

end Session

end TableGateway
