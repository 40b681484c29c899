/-
Loading: how many calls are under way, as far as an observer knows.

An observer of the latest call counts a call when it starts and takes it off when it
completes.  Nobody tells it of a call that is dropped: there is no cancellation, only
a future that is not polled any more, and a call that was started and did not
complete stays counted.  So what is counted are the calls that are pending and those
that were dropped (`loading_iff`), in whatever order they overlap.  Once none is
pending the observer is idle if none was dropped, and else it never is
(`loading_after_drop`).  The count has 64 bits, and all this is so as long as the calls
made are not more than it can tell apart.
-/
import Mathlib.Data.List.Nodup
import TableGateway.Proofs.Latest
import TableGateway.Proofs.Watch

namespace TableGateway

variable {σ τ : Type}

/-- Counting by number is counting. -/
theorem countP_range {α : Type} (p : α → Bool) (l : List α) :
    (List.range l.length).countP (fun n => (l[n]?).any p) = l.countP p := by
  induction l using List.reverseRecOn with
  | nil => rfl
  | append_singleton l a ih =>
      have hbefore : (List.range l.length).countP (fun n => ((l ++ [a])[n]?).any p)
          = (List.range l.length).countP fun n => (l[n]?).any p := by
        refine List.countP_congr fun n hn => ?_
        rw [List.getElem?_append_left (List.mem_range.mp hn)]
      rw [List.length_append, List.length_singleton, List.range_succ, List.countP_append, hbefore,
        ih, List.countP_append, List.countP_singleton, List.countP_singleton,
        List.getElem?_concat_length, Option.any_some]

/-- Some items of a list, none of them twice, are as many in it as they are. -/
theorem length_filter_mem {l part : List Nat} (hl : l.Nodup) (hpart : part.Nodup)
    (h : ∀ n ∈ part, n ∈ l) : (l.filter fun n => n ∈ part).length = part.length := by
  have hperm : (l.filter fun n => n ∈ part).Perm part := by
    refine (List.perm_ext_iff_of_nodup (hl.filter _) hpart).mpr fun n => ?_
    rw [List.mem_filter, decide_eq_true_eq]
    exact ⟨And.right, fun hn => ⟨h n hn, hn⟩⟩
  exact hperm.length_eq

namespace LastCall

/-- The calls under way after an event that is told several times. -/
def inFlightAfter (times : Nat) (n : Nat) : Event → Nat
  | .start _ => n + times
  | .slow _ _ => n
  | .complete _ _ => n - times

end LastCall

namespace Observer

/-- The count after an event told several times, if 64 bits can hold it. -/
theorem exists_gatherTimes (times : Nat) (l : LastCall) (e : Event) :
    ∃ l', (lastCall l).gatherTimes times e = lastCall l' ∧
      (LastCall.inFlightAfter times l.inFlight.toNat e < UInt64.size →
        l'.inFlight.toNat = LastCall.inFlightAfter times l.inFlight.toNat e) := by
  induction times with
  | zero => exact ⟨l, rfl, fun _ => by cases e <;> rfl⟩
  | succ times ih =>
      obtain ⟨l', hl', hcount⟩ := ih
      rw [gatherTimes_succ, hl']
      cases e with
      | start c =>
          refine ⟨l'.start c, rfl, fun hfits => ?_⟩
          simp only [LastCall.inFlightAfter] at hcount hfits ⊢
          rw [LastCall.toNat_inFlight_start l' c (by omega), hcount (by omega), Nat.add_assoc]
      | slow c elapsed => exact ⟨l', rfl, hcount⟩
      | complete c r =>
          refine ⟨l'.complete r, rfl, fun _ => ?_⟩
          have hfits : l.inFlight.toNat < UInt64.size := l.inFlight.toNat_lt
          simp only [LastCall.inFlightAfter] at hcount ⊢
          rw [LastCall.toNat_inFlight_complete, hcount (by omega), Nat.sub_sub]

/-- A slow call is taken off once. -/
theorem exists_gather_closing (times : Nat) (l : LastCall) (c : ObserveConfig) (log : CallLog)
    (r : Response) (elapsed : Duration) :
    ∃ l', (Instrument.closing c log r elapsed).foldl (gatherTimes times) (lastCall l)
        = lastCall l' ∧ l'.inFlight.toNat = l.inFlight.toNat - times := by
  have hcomplete : ∀ l, ∃ l', (lastCall l).gatherTimes times (.complete log (.make r elapsed))
      = lastCall l' ∧ l'.inFlight.toNat = l.inFlight.toNat - times := fun l =>
    let ⟨l', hl', hcount⟩ := exists_gatherTimes times l (.complete log (.make r elapsed))
    ⟨l', hl', hcount (Nat.sub_lt_of_lt l.inFlight.toNat_lt)⟩
  unfold Instrument.closing
  split
  case isTrue =>
    obtain ⟨l', hl', hcount⟩ := exists_gatherTimes times l (.slow log elapsed)
    obtain ⟨l'', hl'', hcount'⟩ := hcomplete l'
    refine ⟨l'', ?_, hcount'.trans (congrArg (· - times) (hcount l.inFlight.toNat_lt))⟩
    rw [List.singleton_append, List.foldl_cons, hl', List.foldl_cons, hl'', List.foldl_nil]
  case isFalse =>
    obtain ⟨l', hl', hcount⟩ := hcomplete l
    exact ⟨l', hl', hcount⟩

end Observer

namespace Watch

/-- The calls that have no response. -/
def unanswered (w : Watch σ τ) : Nat := w.exchanges.calls.countP fun x => x.answer.isNone

/-- An observer counts each call without a response, as often as it is told of it. -/
def Counted (k times : Nat) (w : Watch σ τ) : Prop :=
  ∃ l, w.observer? k = some (.lastCall l) ∧
    (times * w.exchanges.calls.length < UInt64.size → l.inFlight.toNat = times * w.unanswered)

/-- Each call was dropped at most once, and none that has a response. -/
structure Abandoned (w : Watch σ τ) : Prop where
  once : w.dropped.Nodup
  unanswered : ∀ n ∈ w.dropped, ∃ x, w.exchanges.calls[n]? = some x ∧ x.answer = none

variable {i : Instrument Nat} {t : Transport σ τ} {k : Nat} {w : Watch σ τ}

theorem counted_opened (henabled : i.config.enabled = true)
    (h : w.Counted k (i.receivers.leaves.count k)) (r : Request) (o : Options) :
    (w.opened i t r o).Counted k (i.receivers.leaves.count k) := by
  obtain ⟨l, hl, hcount⟩ := h
  set times := i.receivers.leaves.count k
  have hmore : (w.opened i t r o).unanswered = w.unanswered + 1 := by
    simp only [unanswered, opened, Exchanges.opened, List.countP_append]
    rfl
  have hcalls : (w.opened i t r o).exchanges.calls.length = w.exchanges.calls.length + 1 := by
    simp only [opened, Exchanges.opened, List.length_append, List.length_singleton]
  have hle : w.unanswered ≤ w.exchanges.calls.length := List.countP_le_length
  obtain ⟨l', hl', hcount'⟩ := Observer.exists_gatherTimes times l (.start (.ofRequest r o))
  refine ⟨l', ?_, fun hfits => ?_⟩
  · rw [observer?_opened henabled, hl, Option.map_some, hl']
  · rw [hcalls, Nat.mul_succ] at hfits
    have hsum : times * w.unanswered + times < UInt64.size :=
      lt_of_le_of_lt (Nat.add_le_add_right (Nat.mul_le_mul_left times hle) times) hfits
    simp only [LastCall.inFlightAfter, hcount (by omega)] at hcount'
    rw [hcount' hsum, hmore, Nat.mul_succ]

theorem unanswered_closed {n : Nat} {x : Exchange (Instrument.Ticket τ)}
    (hx : w.exchanges.calls[n]? = some x) (hanswer : x.answer = none) :
    (w.closed i t n x).unanswered + 1 = w.unanswered := by
  obtain ⟨hlt, hget⟩ := List.getElem?_eq_some_iff.mp hx
  have hmem : x ∈ w.exchanges.calls := List.mem_of_getElem? hx
  have hpos : 0 < w.unanswered :=
    List.countP_pos_iff.mpr ⟨x, hmem, by rw [hanswer]; rfl⟩
  have hset : (w.closed i t n x).unanswered = w.unanswered - 1 + 0 := by
    simp only [unanswered, closed, Exchanges.closed, List.countP_set hlt, hget, hanswer]
    rfl
  omega

theorem counted_closed (henabled : i.config.enabled = true) {n : Nat}
    {x : Exchange (Instrument.Ticket τ)} (hx : w.exchanges.calls[n]? = some x)
    (hanswer : x.answer = none)
    (hlog : x.ticket.log = Instrument.logOf i.config x.request x.options)
    (h : w.Counted k (i.receivers.leaves.count k)) :
    (w.closed i t n x).Counted k (i.receivers.leaves.count k) := by
  obtain ⟨l, hl, hcount⟩ := h
  have hless := unanswered_closed (i := i) (t := t) hx hanswer
  have hcalls : (w.closed i t n x).exchanges.calls.length = w.exchanges.calls.length := by
    simp only [closed, Exchanges.closed, List.length_set]
  obtain ⟨l', hl', hcount'⟩ := Observer.exists_gather_closing (i.receivers.leaves.count k) l
    i.config (.ofRequest x.request x.options) ((i.onBoard t).finish x.ticket w.exchanges.state).2
    (t.elapsed x.ticket.inner)
  refine ⟨l', ?_, fun hfits => ?_⟩
  · rw [observer?_closed henabled hlog, hl, Option.map_some, hl']
  · rw [hcount', hcount (hcalls ▸ hfits), ← hless, Nat.mul_succ, Nat.add_sub_cancel]

theorem counted_reset {times : Nat} (h : w.Counted k times) : w.reset.Counted k times := by
  obtain ⟨l, hl, hcount⟩ := h
  refine ⟨l, ?_, hcount⟩
  unfold observer? at hl ⊢
  simp only [reset, Board.resetStats, List.getElem?_map, hl]
  rfl

theorem abandoned_opened (h : w.Abandoned) (r : Request) (o : Options) :
    (w.opened i t r o).Abandoned where
  once := h.once
  unanswered n hn := by
    obtain ⟨x, hx, hanswer⟩ := h.unanswered n hn
    exact ⟨x, getElem?_append_of_eq_some hx _, hanswer⟩

theorem abandoned_closed {n : Nat} {x : Exchange (Instrument.Ticket τ)} (hn : n ∉ w.dropped)
    (h : w.Abandoned) : (w.closed i t n x).Abandoned where
  once := h.once
  unanswered k hk := by
    obtain ⟨y, hy, hanswer⟩ := h.unanswered k hk
    have hne : n ≠ k := fun heq => hn (heq ▸ hk)
    exact ⟨y, (List.getElem?_set_ne hne).trans hy, hanswer⟩

theorem mem_unfinished {n : Nat} :
    n ∈ w.unfinished ↔ ∃ x, w.exchanges.calls[n]? = some x ∧ x.answer = none := by
  simp only [unfinished, List.mem_filter, List.mem_range, Option.any_eq_true,
    Option.isNone_iff_eq_none]
  refine ⟨And.right, ?_⟩
  rintro ⟨x, hx, hanswer⟩
  exact ⟨(List.getElem?_eq_some_iff.mp hx).1, x, hx, hanswer⟩

theorem abandoned_drop {n : Nat} (hn : n ∈ w.pending) (h : w.Abandoned) :
    (w.drop n).Abandoned := by
  obtain ⟨hcall, hnot⟩ := List.mem_filter.mp hn
  constructor
  case once =>
    show (w.dropped ++ [n]).Nodup
    rw [← List.concat_eq_append]
    exact h.once.concat (of_decide_eq_true hnot)
  case unanswered =>
    intro k hk
    rcases List.mem_append.mp hk with hk | hk
    · exact h.unanswered k hk
    · rw [List.mem_singleton.mp hk]
      exact mem_unfinished.mp hcall

theorem length_unfinished (w : Watch σ τ) : w.unfinished.length = w.unanswered := by
  rw [unfinished, ← List.countP_eq_length_filter]
  exact countP_range _ _

/-- A call without a response is pending or was dropped. -/
theorem Abandoned.unanswered_eq (h : w.Abandoned) :
    w.unanswered = w.pending.length + w.dropped.length := by
  have hunfinished : w.unfinished.Nodup := List.nodup_range.filter _
  have hdropped : (w.unfinished.filter fun n => n ∈ w.dropped).length = w.dropped.length :=
    length_filter_mem hunfinished h.once fun n hn => mem_unfinished.mpr (h.unanswered n hn)
  have hsplit := List.length_eq_length_filter_add (l := w.unfinished)
    fun n => decide (n ∈ w.dropped)
  -- the unfinished calls fall into those that were dropped and those that are pending
  rw [← length_unfinished, hsplit, hdropped, Nat.add_comm]
  simp only [pending, decide_not]

theorem counted_run (henabled : i.config.enabled = true) (world : σ) {board : Board} {l : LastCall}
    (hfresh : board.observers[k]? = some (.lastCall l)) (hidle : l.inFlight = 0)
    (steps : List Step) :
    (run i t world board steps).Counted k (i.receivers.leaves.count k)
      ∧ (run i t world board steps).Abandoned := by
  apply run_induction (P := fun w => w.Counted k (i.receivers.leaves.count k) ∧ w.Abandoned)
  case start => exact ⟨⟨l, hfresh, fun _ => by rw [hidle]; rfl⟩, List.nodup_nil, nofun⟩
  case opened =>
    exact fun w r o h => ⟨counted_opened henabled h.1 r o, abandoned_opened h.2 r o⟩
  case closed =>
    exact fun w n x hx hanswer hn hlog h =>
      ⟨counted_closed henabled hx hanswer hlog h.1, abandoned_closed hn h.2⟩
  case drop => exact fun w n hn h => ⟨h.1, abandoned_drop hn h.2⟩
  case reset => exact fun w h => ⟨counted_reset h.1, h.2.once, h.2.unanswered⟩

/-- An observer of the latest call that is told of all calls counts those that are
pending and those that were dropped, however they overlap, each as often as the
observer is named.  It is idle when there are none of either kind.  The calls of the
whole run are as many as 64 bits can count. -/
theorem loading_iff (i : Instrument Nat) (t : Transport σ τ) (world : σ) (board : Board) (k : Nat)
    (l : LastCall) (henabled : i.config.enabled = true) (hnamed : k ∈ i.receivers.leaves)
    (hfresh : board.observers[k]? = some (.lastCall l)) (hidle : l.inFlight = 0)
    (steps : List Step) :
    let w := run i t world board steps
    ∃ l, w.lastCall? k = some l ∧
      (i.receivers.leaves.count k * w.exchanges.calls.length < UInt64.size →
        l.inFlight.toNat = i.receivers.leaves.count k * (w.pending.length + w.dropped.length) ∧
        (l.isLoading = false ↔ w.pending = [] ∧ w.dropped = [])) := by
  intro w
  obtain ⟨⟨l, hl, hcount⟩, habandoned⟩ := counted_run henabled world hfresh hidle steps
  rw [habandoned.unanswered_eq] at hcount
  refine ⟨l, by rw [lastCall?, hl], fun hfits => ⟨hcount hfits, ?_⟩⟩
  have htold : i.receivers.leaves.count k ≠ 0 := (List.count_pos_iff.mpr hnamed).ne'
  rw [LastCall.isLoading, bne_eq_false_iff_eq, ← UInt64.toNat_inj, hcount hfits, UInt64.toNat_zero,
    Nat.mul_eq_zero, Nat.add_eq_zero_iff, List.length_eq_zero_iff, List.length_eq_zero_iff]
  exact ⟨fun h => h.resolve_left htold, Or.inr⟩

/-- One observer of the latest call, told of all calls. -/
def observedByLastCall : Instrument Nat :=
  { receivers := .one 0, config := { enabled := true } }

/-- A fetch that is started and dropped while it waits for its response. -/
def droppedFetch : List Step := [.use (.dispatch (.fetch { tableName := some "users" }) {}), .drop 0]

/-- Nothing is pending after it, and the observer still has a call under way. -/
theorem loading_after_drop :
    let w := run observedByLastCall Script.transport {} { observers := [.lastCall {}] } droppedFetch
    w.pending = [] ∧ w.dropped = [0] ∧
      ∃ l, w.lastCall? 0 = some l ∧ l.inFlight = 1 ∧ l.isLoading = true :=
  ⟨rfl, rfl, _, rfl, rfl, rfl⟩

/-- Two fetches, of which the first is over after the second was started. -/
def overlappingFetches : List Step :=
  [.use (.dispatch (.fetch { tableName := some "users" }) {}),
    .use (.send (.fetch { tableName := some "posts" }) {}), .use (.finish 0), .use (.finish 1)]

/-- Both are over, and the observer is idle. -/
theorem loading_iff_overlappingFetches :
    ∃ l, (run observedByLastCall Script.transport {} { observers := [.lastCall {}] }
        overlappingFetches).lastCall? 0 = some l ∧ l.inFlight = 0 ∧ l.isLoading = false := by
  obtain ⟨l, hl, hcounts⟩ := loading_iff observedByLastCall Script.transport {}
    { observers := [.lastCall {}] } 0 {} rfl (by decide) rfl rfl overlappingFetches
  obtain ⟨hcount, hidle⟩ := hcounts (by decide)
  exact ⟨l, hl, UInt64.toNat_inj.mp hcount, hidle.mpr ⟨rfl, rfl⟩⟩

end Watch

end TableGateway
