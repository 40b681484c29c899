/-
Watches: an observed transport in use, with calls that are dropped.

Whoever uses an instrumented transport opens calls and closes them, any number at
a time and in any order.  A call that is not over may be dropped, of which nobody
is told, and the statistics on the board may be reset in between.  A `Watch` is
what has come of such steps.  What holds at the start and is kept when a call is
opened, closed or dropped and when statistics are reset holds after any of them
(`Watch.run_induction`).

Of these only opening and closing a call tell the receivers something, and an
observer gathers it as often as they name the observer (`observer?_opened`,
`observer?_closed`).
-/
import Mathlib.Logic.Function.Iterate
import TableGateway.Proofs.Observation

namespace TableGateway

variable {σ τ : Type}

/-! ## Who is told -/

namespace Receivers

variable {ι : Type}

mutual

/-- Receivers are told as their leaves are, from left to right. -/
theorem deliver_eq (tell : ι → σ → σ) : ∀ (r : Receivers ι) (s : σ),
    r.deliver tell s = r.leaves.foldl (fun s i => tell i s) s
  | nobody, s => by rw [deliver, leaves, List.foldl_nil]
  | one i, s => by rw [deliver, leaves, List.foldl_cons, List.foldl_nil]
  | several members, s => by rw [deliver, leaves, deliverAll_eq]

theorem deliverAll_eq (tell : ι → σ → σ) : ∀ (members : List (Receivers ι)) (s : σ),
    deliverAll tell members s = (leavesAll members).foldl (fun s i => tell i s) s
  | [], s => by rw [deliverAll, leavesAll, List.foldl_nil]
  | r :: rest, s => by
      rw [deliverAll, leavesAll, List.foldl_append, deliverAll_eq, deliver_eq]

end

end Receivers

/-- What an observer has gathered after it was told of an event several times. -/
def Observer.gatherTimes (times : Nat) (o : Observer) (e : Event) : Observer :=
  (fun o => o.gather e)^[times] o

theorem Observer.gatherTimes_succ (times : Nat) (o : Observer) (e : Event) :
    o.gatherTimes (times + 1) e = (o.gatherTimes times e).gather e :=
  Function.iterate_succ_apply' ..

namespace Board

theorem observers_tell (e : Event) (i k : Nat) (b : Board) :
    (tell e i b).observers[k]?
      = if i = k then b.observers[k]?.map (fun o => o.gather e) else b.observers[k]? := by
  unfold tell
  by_cases hik : i = k
  · subst hik
    rw [if_pos rfl]
    cases ho : b.observers[i]? with
    | none => exact ho
    | some o => exact List.getElem?_set_self (List.getElem?_eq_some_iff.mp ho).1
  · rw [if_neg hik]
    cases b.observers[i]? with
    | none => rfl
    | some o => exact List.getElem?_set_ne hik

/-- An observer is told as often as it is named. -/
theorem observers_notify (r : Receivers Nat) (e : Event) (k : Nat) (b : Board) :
    (notify r e b).observers[k]?
      = b.observers[k]?.map fun o => o.gatherTimes (r.leaves.count k) e := by
  rw [notify, Receivers.deliver_eq]
  induction r.leaves generalizing b with
  | nil => exact Option.map_id'.symm
  | cons i rest ih =>
      rw [List.foldl_cons, ih, observers_tell]
      by_cases hik : i = k
      · rw [if_pos hik, Option.map_map, hik, List.count_cons_self]
        rfl
      · rw [if_neg hik, List.count_cons_of_ne hik]

theorem observers_foldl_notify (r : Receivers Nat) (es : List Event) (k : Nat) (b : Board) :
    (es.foldl (fun b e => notify r e b) b).observers[k]?
      = b.observers[k]?.map fun o => es.foldl (Observer.gatherTimes (r.leaves.count k)) o := by
  induction es generalizing b with
  | nil => exact Option.map_id'.symm
  | cons e rest ih =>
      rw [List.foldl_cons, ih, observers_notify, Option.map_map]
      rfl

end Board

namespace Instrument

theorem foldl_apart {μ : Type} (tell : Event → μ → μ) (es : List Event) (s : σ × μ) :
    es.foldl (fun s e => apart tell e s) s = (s.1, es.foldl (fun m e => tell e m) s.2) := by
  induction es generalizing s with
  | nil => rfl
  | cons e rest ih => exact ih (apart tell e s)

variable (i : Instrument Nat) (t : Transport σ τ)

/-- What is told when a call is opened. -/
def opening (c : ObserveConfig) (r : Request) (o : Options) : List Event :=
  if c.enabled then [.start (.ofRequest r o)] else []

/-- What is told when a call with this log is closed. -/
def closingOf (c : ObserveConfig) (log : Option CallLog) (r : Response) (elapsed : Duration) :
    List Event :=
  log.elim [] fun log => closing c log r elapsed

/-- The board after a request was taken. -/
theorem board_dispatch (r : Request) (o : Options) (s : σ × Board) :
    ((i.onBoard t).dispatch r o s).1.2
      = (opening i.config r o).foldl (fun b e => b.notify i.receivers e) s.2 := by
  rw [onBoard, dispatch_eq]
  unfold opening
  dsimp only [Transport.beside]
  rw [Endpoints.invoke_ofInvoke]
  split <;> rfl

theorem log_dispatch (r : Request) (o : Options) (s : σ × Board) :
    ((i.onBoard t).dispatch r o s).2.log = logOf i.config r o := by
  rw [onBoard, dispatch_eq]

/-- The board after a ticket was turned in. -/
theorem board_finish (ticket : Ticket τ) (s : σ × Board) :
    ((i.onBoard t).finish ticket s).1.2
      = (closingOf i.config ticket.log ((i.onBoard t).finish ticket s).2
          ((i.onBoard t).elapsed ticket)).foldl (fun b e => b.notify i.receivers e) s.2 := by
  rw [onBoard, finish_eq]
  dsimp only
  rw [foldl_apart]
  rfl

end Instrument

/-! ## Watches -/

/-- A step in the use of an observed transport. -/
inductive Step where
  | use (u : Use)
  /-- A call that is not over is dropped. -/
  | drop (n : Nat)
  /-- All statistics are reset. -/
  | reset

/-- What has come of some steps. -/
structure Watch (σ τ : Type) where
  exchanges : Exchanges (σ × Board) (Instrument.Ticket τ)
  /-- The calls that were dropped, first one first. -/
  dropped : List Nat := []
  /-- How many moments had passed at the last reset. -/
  mark : Nat := 0

/-- A call that is over, with what came of it. -/
structure Completed where
  request : Request
  options : Options
  response : Response
  elapsed : Duration

/-- The call that is over by this moment. -/
def Moment.completed? : Moment → Option Completed
  | opened _ _ _ => none
  | closed _ r o response elapsed => some ⟨r, o, response, elapsed⟩

namespace Watch

/-- What an observer of the board has gathered. -/
def observer? (w : Watch σ τ) (k : Nat) : Option Observer := w.exchanges.state.2.observers[k]?

/-- The calls that were opened and not closed. -/
def unfinished (w : Watch σ τ) : List Nat :=
  (List.range w.exchanges.calls.length).filter fun n =>
    (w.exchanges.calls[n]?).any fun x => x.answer.isNone

/-- The calls that are still to be closed: they were not dropped. -/
def pending (w : Watch σ τ) : List Nat := w.unfinished.filter fun n => n ∉ w.dropped

/-- The calls that were closed since the last reset, first one first. -/
def completed (w : Watch σ τ) : List Completed :=
  (w.exchanges.moments.drop w.mark).filterMap Moment.completed?

/-- The statistics of an observer that keeps them. -/
def stats? (w : Watch σ τ) (k : Nat) : Option Stats :=
  match w.observer? k with
  | some (.stats s) => some s
  | _ => none

/-- The latest call of an observer that keeps it. -/
def lastCall? (w : Watch σ τ) (k : Nat) : Option LastCall :=
  match w.observer? k with
  | some (.lastCall l) => some l
  | _ => none

def drop (w : Watch σ τ) (n : Nat) : Watch σ τ := { w with dropped := w.dropped ++ [n] }

def reset (w : Watch σ τ) : Watch σ τ :=
  { w with
    exchanges :=
      { w.exchanges with
        state := (w.exchanges.state.1, w.exchanges.state.2.resetStats) }
    mark := w.exchanges.moments.length }

section

variable (i : Instrument Nat) (t : Transport σ τ)

def opened (w : Watch σ τ) (r : Request) (o : Options) : Watch σ τ :=
  { w with
    exchanges := w.exchanges.opened r o ((i.onBoard t).dispatch r o w.exchanges.state) }

def closed (w : Watch σ τ) (n : Nat) (x : Exchange (Instrument.Ticket τ)) : Watch σ τ :=
  { w with exchanges := w.exchanges.closed (i.onBoard t) n x }

/-- Only a call that is pending can be dropped, and a call that was dropped is never
closed. -/
def step (w : Watch σ τ) : Step → Watch σ τ
  | .use (.finish n) =>
      if n ∈ w.dropped then w
      else { w with exchanges := w.exchanges.use (i.onBoard t) (.finish n) }
  | .use u => { w with exchanges := w.exchanges.use (i.onBoard t) u }
  | .drop n => if n ∈ w.pending then w.drop n else w
  | .reset => w.reset

/-- What comes of some steps, from the state of the transport inside and the board. -/
def run (world : σ) (board : Board) (steps : List Step) : Watch σ τ :=
  steps.foldl (step i t) { exchanges := { state := (world, board) } }

/-- The tickets have the logs of their calls. -/
def Logged (w : Watch σ τ) : Prop :=
  ∀ (n : Nat) (x : Exchange (Instrument.Ticket τ)), w.exchanges.calls[n]? = some x →
    x.ticket.log = Instrument.logOf i.config x.request x.options

variable {i t}

theorem logged_opened {w : Watch σ τ} (h : w.Logged i) (r : Request) (o : Options) :
    (w.opened i t r o).Logged i := by
  intro n x hx
  rcases getElem?_concat_eq_some hx with hx | ⟨rfl, rfl⟩
  · exact h n x hx
  · exact Instrument.log_dispatch i t r o w.exchanges.state

theorem logged_closed {w : Watch σ τ} {n : Nat} {x : Exchange (Instrument.Ticket τ)}
    (hx : w.exchanges.calls[n]? = some x) (h : w.Logged i) : (w.closed i t n x).Logged i := by
  intro k y hy
  simp only [closed, Exchanges.closed, List.getElem?_set] at hy
  split at hy
  case isTrue hk =>
    subst hk
    split at hy
    · cases hy
      exact h n x hx
    · cases hy
  case isFalse => exact h k y hy

/-- All that a step may do. -/
theorem step_cases (w : Watch σ τ) (s : Step) :
    step i t w s = w ∨ (∃ r o, step i t w s = w.opened i t r o) ∨
      (∃ n x, w.exchanges.calls[n]? = some x ∧ x.answer = none ∧ n ∉ w.dropped ∧
        step i t w s = w.closed i t n x) ∨
      (∃ n, n ∈ w.pending ∧ step i t w s = w.drop n) ∨ step i t w s = w.reset := by
  cases s with
  | use u =>
      cases u with
      | dispatch r o | send r o => exact Or.inr (Or.inl ⟨r, o, rfl⟩)
      | finish n =>
          dsimp only [step]
          by_cases hn : n ∈ w.dropped
          · exact Or.inl (if_pos hn)
          rw [if_neg hn]
          cases hx : w.exchanges.calls[n]? with
          | none =>
              refine Or.inl ?_
              simp only [Exchanges.use, hx]
          | some x =>
              cases hanswer : x.answer with
              | none =>
                  rw [Exchanges.use_finish hx hanswer]
                  exact Or.inr (Or.inr (Or.inl ⟨n, x, hx, hanswer, hn, rfl⟩))
              | some r =>
                  refine Or.inl ?_
                  simp only [Exchanges.use, hx, hanswer, Option.isNone_some, Bool.false_eq_true,
                    if_false]
  | drop n =>
      dsimp only [step]
      by_cases hn : n ∈ w.pending
      · exact Or.inr (Or.inr (Or.inr (Or.inl ⟨n, hn, if_pos hn⟩)))
      · exact Or.inl (if_neg hn)
  | reset => exact Or.inr (Or.inr (Or.inr (Or.inr rfl)))

/-- What holds at the start and is kept by all that may happen holds after any steps. -/
theorem run_induction {P : Watch σ τ → Prop} {world : σ} {board : Board}
    (start : P { exchanges := { state := (world, board) } })
    (opened : ∀ w r o, P w → P (w.opened i t r o))
    (closed : ∀ w n x, w.exchanges.calls[n]? = some x → x.answer = none → n ∉ w.dropped →
      x.ticket.log = Instrument.logOf i.config x.request x.options → P w → P (w.closed i t n x))
    (drop : ∀ w n, n ∈ w.pending → P w → P (w.drop n))
    (reset : ∀ w, P w → P w.reset) (steps : List Step) : P (run i t world board steps) := by
  -- the logs of the tickets are carried along: what closing a call tells depends on them
  suffices h : (run i t world board steps).Logged i ∧ P (run i t world board steps) from h.2
  induction steps using List.reverseRecOn with
  | nil =>
      refine ⟨?_, start⟩
      intro n x hx
      rw [run, List.foldl_nil, List.getElem?_nil] at hx
      cases hx
  | append_singleton steps s ih =>
      obtain ⟨hlogged, hp⟩ := ih
      have hstep : run i t world board (steps ++ [s]) = step i t (run i t world board steps) s :=
        List.foldl_concat ..
      rw [hstep]
      rcases step_cases (run i t world board steps) s with
        heq | ⟨r, o, heq⟩ | ⟨n, x, hx, hanswer, hn, heq⟩ | ⟨n, hn, heq⟩ | heq
      · rw [heq]
        exact ⟨hlogged, hp⟩
      · rw [heq]
        exact ⟨logged_opened hlogged r o, opened _ r o hp⟩
      · rw [heq]
        exact ⟨logged_closed hx hlogged, closed _ n x hx hanswer hn (hlogged n x hx) hp⟩
      · rw [heq]
        exact ⟨hlogged, drop _ n hn hp⟩
      · rw [heq]
        exact ⟨hlogged, reset _ hp⟩

/-! ## What observers gather -/

/-- Opening a call under observation tells of its start. -/
theorem observer?_opened (henabled : i.config.enabled = true) (w : Watch σ τ) (r : Request)
    (o : Options) (k : Nat) :
    (w.opened i t r o).observer? k = (w.observer? k).map fun observer =>
      observer.gatherTimes (i.receivers.leaves.count k) (.start (.ofRequest r o)) := by
  unfold observer?
  show ((i.onBoard t).dispatch r o w.exchanges.state).1.2.observers[k]? = _
  rw [Instrument.board_dispatch, Board.observers_foldl_notify, Instrument.opening, if_pos henabled]
  rfl

/-- Closing it tells that it was slow, if it was, and that it is complete. -/
theorem observer?_closed (henabled : i.config.enabled = true) {w : Watch σ τ} {n : Nat}
    {x : Exchange (Instrument.Ticket τ)}
    (hlog : x.ticket.log = Instrument.logOf i.config x.request x.options) (k : Nat) :
    (w.closed i t n x).observer? k = (w.observer? k).map fun observer =>
      (Instrument.closing i.config (.ofRequest x.request x.options)
        ((i.onBoard t).finish x.ticket w.exchanges.state).2 (t.elapsed x.ticket.inner)).foldl
          (Observer.gatherTimes (i.receivers.leaves.count k)) observer := by
  unfold observer?
  show ((i.onBoard t).finish x.ticket w.exchanges.state).1.2.observers[k]? = _
  rw [Instrument.board_finish, Board.observers_foldl_notify, Instrument.closingOf, hlog,
    Instrument.logOf, if_pos henabled]
  rfl

end

end Watch

end TableGateway
