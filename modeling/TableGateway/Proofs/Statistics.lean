/-
Statistics: what they say of the calls since the last reset.

`Stats.Describes` says of statistics that they describe some calls: how many there
were, in all and to each endpoint, how many of them failed in the eyes of their
callers, how long they took together and how long the longest took.  Times are
bounded, and a sum that is at the bound stays there whatever is added.  Of fewer
calls than a counter can count, statistics describe exactly the calls that were
taken into account (`describes_tally`), and with an observer that is told of each
call once they do so after any use of the transport (`statistics_describe`).

What is described does not depend on the order of the calls; only which of the
longest calls came first does (`Describes.counters_eq`).
-/
import Mathlib.Algebra.BigOperators.Group.List.Basic
import Mathlib.Algebra.Ring.Nat
import Mathlib.Logic.Function.Iterate
import TableGateway.Proofs.Verdict
import TableGateway.Proofs.Watch

namespace TableGateway

variable {σ τ : Type}

namespace Completed

def nanos (c : Completed) : Nat := c.elapsed.nanos

/-- The caller gets an error. -/
def Failed (c : Completed) : Prop := (Result.ofResponse c.response).error ≠ none

instance (c : Completed) : Decidable c.Failed := inferInstanceAs (Decidable (_ ≠ none))

/-- The response is one that transports make. -/
def Arrived (c : Completed) : Prop := ∃ a : Arrival, c.response = a.response

/-- The nanoseconds of some calls together. -/
def total (calls : List Completed) : Nat := (calls.map nanos).sum

/-- The nanoseconds of the longest of some calls; none if there are no calls. -/
def longest (calls : List Completed) : Nat := (calls.map nanos).foldl max 0

/-- Summaries tell failures as callers see them. -/
theorem not_ok_iff {c : Completed} (h : c.Arrived) :
    (ResponseLog.make c.response c.elapsed).ok = false ↔ c.Failed := by
  obtain ⟨a, ha⟩ := h
  have hok := ResponseLog.ok_make (r := c.response) (ha ▸ a.error_of_ok) c.elapsed
  rw [hok, ← Bool.not_eq_true, Result.isOk_eq_true_iff]
  exact Iff.rfl

end Completed

namespace Stats

/-! ## Bounded numbers -/

theorem toNat_succ {n : UInt64} (h : n.toNat + 1 < UInt64.size) : (n + 1).toNat = n.toNat + 1 := by
  rw [UInt64.toNat_add]
  exact Nat.mod_eq_of_lt h

theorem toNat_clamp (d : Duration) : (clamp d).toNat = min d.nanos bound.toNat := by
  have hbound : bound.toNat = UInt64.size - 1 := rfl
  unfold clamp
  split
  case isTrue h =>
    rw [UInt64.toNat_ofNat_of_lt' h, hbound]
    omega
  case isFalse h =>
    rw [hbound]
    omega

/-- A sum past the bound is the bound, and the sum that was stored first is gone. -/
theorem toNat_addTo (total nanos : UInt64) :
    (addTo total nanos).toNat = min (total.toNat + nanos.toNat) bound.toNat := by
  have hbound : bound.toNat = UInt64.size - 1 := rfl
  unfold addTo
  dsimp only
  split
  case isTrue h =>
    rw [hbound]
    omega
  case isFalse h =>
    rw [UInt64.toNat_add, Nat.mod_eq_of_lt (Nat.lt_of_not_le h), hbound]
    omega

/-! ## One more call -/

/-- The counter of an endpoint. -/
def countOf (s : Stats) : Endpoint → UInt64
  | .fetch => s.fetchCount
  | .insert => s.insertCount
  | .update => s.updateCount
  | .delete => s.deleteCount

/-- Statistics with a call taken into account. -/
def note (s : Stats) (c : Completed) : Stats :=
  s.complete (.ofRequest c.request c.options) (.make c.response c.elapsed)

/-- Statistics of some calls, first one first. -/
def tally (calls : List Completed) : Stats := calls.foldl note {}

theorem tally_concat (calls : List Completed) (c : Completed) :
    tally (calls ++ [c]) = (tally calls).note c :=
  List.foldl_concat ..

/-- Only the counter of the endpoint is raised. -/
theorem count_eq (s : Stats) (e : Endpoint) :
    s.count e = { s with
      fetchCount := if e = .fetch then s.fetchCount + 1 else s.fetchCount
      insertCount := if e = .insert then s.insertCount + 1 else s.insertCount
      updateCount := if e = .update then s.updateCount + 1 else s.updateCount
      deleteCount := if e = .delete then s.deleteCount + 1 else s.deleteCount } := by
  cases e <;> rfl

/-- Only the longest time and its call are replaced. -/
theorem compareSlowest_eq (s : Stats) (c : CallLog) (nanos : UInt64) :
    s.compareSlowest c nanos = { s with
      maxNanos := if s.maxNanos < nanos then nanos else s.maxNanos
      slowest := if s.maxNanos < nanos then some (c.endpoint, c.table?) else s.slowest } := by
  unfold compareSlowest
  split <;> rfl

theorem totalCalls_note (s : Stats) (c : Completed) :
    (s.note c).totalCalls = s.totalCalls + 1 := by
  simp only [note, complete, count_eq, compareSlowest_eq]

theorem failedCalls_note (s : Stats) (c : Completed) :
    (s.note c).failedCalls = if (ResponseLog.make c.response c.elapsed).ok then s.failedCalls
      else s.failedCalls + 1 := by
  simp only [note, complete, count_eq, compareSlowest_eq]

theorem totalNanos_note (s : Stats) (c : Completed) :
    (s.note c).totalNanos = addTo s.totalNanos (clamp c.elapsed) := by
  simp only [note, complete, count_eq, compareSlowest_eq]
  rfl

theorem countOf_note (s : Stats) (c : Completed) (e : Endpoint) :
    (s.note c).countOf e
      = if c.request.endpoint = e then s.countOf e + 1 else s.countOf e := by
  simp only [note, complete, count_eq, compareSlowest_eq]
  cases e <;> rfl

theorem maxNanos_complete (s : Stats) (c : CallLog) (r : ResponseLog) :
    (s.complete c r).maxNanos.toNat = max s.maxNanos.toNat (clamp r.elapsed).toNat := by
  have hmax : (s.complete c r).maxNanos
      = if s.maxNanos < clamp r.elapsed then clamp r.elapsed else s.maxNanos := by
    simp only [complete, count_eq, compareSlowest_eq]
  rw [hmax]
  split
  case isTrue h =>
    have hlt := UInt64.lt_iff_toNat_lt.mp h
    omega
  case isFalse h =>
    have hle := mt UInt64.lt_iff_toNat_lt.mpr h
    omega

/-! ## What statistics describe -/

/-- The statistics are those of some calls, as far as the order of the calls does
not matter. -/
structure Describes (s : Stats) (calls : List Completed) : Prop where
  total : s.totalCalls.toNat = calls.length
  endpoints : ∀ e, (s.countOf e).toNat = calls.countP fun c => c.request.endpoint = e
  failed : s.failedCalls.toNat = calls.countP fun c => c.Failed
  duration : s.totalDuration.nanos = min (Completed.total calls) (UInt64.size - 1)
  longest : s.maxDuration.nanos = min (Completed.longest calls) (UInt64.size - 1)

theorem describes_nil : Describes {} [] where
  total := rfl
  endpoints e := by cases e <;> rfl
  failed := rfl
  duration := rfl
  longest := rfl

/-- One more call is described, if the counters have room for it. -/
theorem Describes.note {s : Stats} {calls : List Completed} {c : Completed} (h : s.Describes calls)
    (hroom : calls.length + 1 < UInt64.size) (hc : c.Arrived) :
    (s.note c).Describes (calls ++ [c]) := by
  have hcount : ∀ p : Completed → Bool, calls.countP p + 1 < UInt64.size := by
    intro p
    have hle := List.countP_le_length (p := p) (l := calls)
    omega
  constructor
  case total =>
    rw [totalCalls_note, toNat_succ (h.total ▸ hroom), h.total, List.length_append,
      List.length_singleton]
  case endpoints =>
    intro e
    rw [countOf_note, List.countP_append, List.countP_singleton, ← h.endpoints e]
    by_cases he : c.request.endpoint = e
    · rw [if_pos he, toNat_succ (h.endpoints e ▸ hcount _), if_pos (decide_eq_true he)]
    · rw [if_neg he, if_neg (by simpa using he), Nat.add_zero]
  case failed =>
    have hfailed := Completed.not_ok_iff hc
    rw [failedCalls_note, List.countP_append, List.countP_singleton, ← h.failed]
    cases hok : (ResponseLog.make c.response c.elapsed).ok with
    | true =>
        have hnot : ¬c.Failed := fun hf => nomatch hok.symm.trans (hfailed.mpr hf)
        rw [if_pos rfl, if_neg (by simpa using hnot), Nat.add_zero]
    | false =>
        rw [if_neg Bool.false_ne_true, toNat_succ (h.failed ▸ hcount _),
          if_pos (decide_eq_true (hfailed.mp hok))]
  case duration =>
    have hduration : s.totalNanos.toNat = _ := h.duration
    show (s.note c).totalNanos.toNat = _
    rw [totalNanos_note, toNat_addTo, toNat_clamp, hduration, Completed.total, Completed.total,
      List.map_append, List.sum_append, List.map_singleton, List.sum_singleton]
    -- the sum may be bounded after each addition or once at the end
    show min (_ + min c.elapsed.nanos (UInt64.size - 1)) (UInt64.size - 1)
      = min (_ + c.elapsed.nanos) _
    omega
  case longest =>
    have hlongest : s.maxNanos.toNat = _ := h.longest
    show (s.note c).maxNanos.toNat = _
    rw [Stats.note, maxNanos_complete, toNat_clamp, hlongest, Completed.longest, Completed.longest,
      List.map_append, List.map_singleton, List.foldl_concat]
    show max _ (min c.elapsed.nanos (UInt64.size - 1)) = min (max _ c.elapsed.nanos) _
    omega

/-- Statistics describe the calls that they were told of. -/
theorem describes_tally {calls : List Completed} (hroom : calls.length < UInt64.size)
    (hcalls : ∀ c ∈ calls, c.Arrived) : (tally calls).Describes calls := by
  induction calls using List.reverseRecOn with
  | nil => exact describes_nil
  | append_singleton calls c ih =>
      rw [List.length_append, List.length_singleton] at hroom
      rw [tally_concat]
      refine (ih (by omega) fun c' hc' => hcalls c' (List.mem_append_left _ hc')).note hroom ?_
      exact hcalls c (List.mem_append_right _ List.mem_cons_self)

/-- Every call went to one of the endpoints. -/
theorem Describes.total_eq {s : Stats} {calls : List Completed} (h : s.Describes calls) :
    s.totalCalls.toNat
      = s.fetchCount.toNat + s.insertCount.toNat + s.updateCount.toNat + s.deleteCount.toNat := by
  have hparts : ∀ calls : List Completed, calls.length
      = calls.countP (fun c => c.request.endpoint = .fetch)
        + calls.countP (fun c => c.request.endpoint = .insert)
        + calls.countP (fun c => c.request.endpoint = .update)
        + calls.countP (fun c => c.request.endpoint = .delete) := by
    intro calls
    induction calls with
    | nil => rfl
    | cons c rest ih =>
        cases he : c.request.endpoint <;> simp [he, ih] <;> omega
  have hfetch : s.fetchCount.toNat = _ := h.endpoints .fetch
  have hinsert : s.insertCount.toNat = _ := h.endpoints .insert
  have hupdate : s.updateCount.toNat = _ := h.endpoints .update
  have hdelete : s.deleteCount.toNat = _ := h.endpoints .delete
  rw [h.total, hfetch, hinsert, hupdate, hdelete]
  exact hparts calls

theorem longest_le_total (calls : List Completed) :
    Completed.longest calls ≤ Completed.total calls := by
  induction calls using List.reverseRecOn with
  | nil => exact Nat.le_refl 0
  | append_singleton calls c ih =>
      rw [Completed.longest, Completed.total] at ih ⊢
      rw [List.map_append, List.map_singleton, List.foldl_concat, List.sum_append,
        List.sum_singleton]
      omega

/-- No call took longer than all calls together, bounded as both times are. -/
theorem Describes.longest_le {s : Stats} {calls : List Completed} (h : s.Describes calls) :
    s.maxDuration.nanos ≤ s.totalDuration.nanos := by
  rw [h.longest, h.duration]
  exact min_le_min_right _ (longest_le_total calls)

/-- What is counted, without the call that is noted as the slowest. -/
def counters (s : Stats) : Stats := { s with slowest := none }

/-- The order of the calls makes no difference to what is counted. -/
theorem Describes.counters_eq {s s' : Stats} {calls calls' : List Completed}
    (h : s.Describes calls) (h' : s'.Describes calls') (hperm : calls'.Perm calls) :
    s'.counters = s.counters := by
  have htotal : s'.totalCalls = s.totalCalls := by
    rw [← UInt64.toNat_inj, h'.total, h.total, hperm.length_eq]
  have hendpoint : ∀ e, s'.countOf e = s.countOf e := by
    intro e
    rw [← UInt64.toNat_inj, h'.endpoints, h.endpoints, hperm.countP_eq]
  have hfailed : s'.failedCalls = s.failedCalls := by
    rw [← UInt64.toNat_inj, h'.failed, h.failed, hperm.countP_eq]
  have hduration : s'.totalNanos = s.totalNanos := by
    have hsum : Completed.total calls' = Completed.total calls := (hperm.map _).sum_eq
    have hnanos := h'.duration.trans (hsum ▸ h.duration.symm)
    exact UInt64.toNat_inj.mp hnanos
  have hlongest : s'.maxNanos = s.maxNanos := by
    have hmax : Completed.longest calls' = Completed.longest calls := (hperm.map _).foldl_eq 0
    have hnanos := h'.longest.trans (hmax ▸ h.longest.symm)
    exact UInt64.toNat_inj.mp hnanos
  have hfetch : s'.fetchCount = s.fetchCount := hendpoint .fetch
  have hinsert : s'.insertCount = s.insertCount := hendpoint .insert
  have hupdate : s'.updateCount = s.updateCount := hendpoint .update
  have hdelete : s'.deleteCount = s.deleteCount := hendpoint .delete
  simp only [counters, htotal, hfailed, hduration, hlongest, hfetch, hinsert, hupdate, hdelete]

end Stats

/-! ## Statistics in use -/

namespace Watch

/-- An observer has taken the calls into account that were closed since the last reset. -/
structure Tallied (k : Nat) (w : Watch σ τ) : Prop where
  mark : w.mark ≤ w.exchanges.moments.length
  stats : w.observer? k = some (.stats (.tally w.completed))

variable {i : Instrument Nat} {t : Transport σ τ} {k : Nat} {w : Watch σ τ}

theorem tallied_opened (henabled : i.config.enabled = true)
    (honce : i.receivers.leaves.count k = 1) (h : w.Tallied k) (r : Request) (o : Options) :
    (w.opened i t r o).Tallied k := by
  have hcompleted : (w.opened i t r o).completed = w.completed := by
    simp only [completed, opened, Exchanges.opened, List.drop_append_of_le_length h.mark,
      List.filterMap_append]
    exact List.append_nil _
  constructor
  case mark =>
    simp only [opened, Exchanges.opened, List.length_append]
    exact Nat.le_add_right_of_le h.mark
  case stats =>
    rw [observer?_opened henabled, h.stats, honce, hcompleted]
    rfl

theorem tallied_closed (henabled : i.config.enabled = true)
    (honce : i.receivers.leaves.count k = 1) {n : Nat} {x : Exchange (Instrument.Ticket τ)}
    (hlog : x.ticket.log = Instrument.logOf i.config x.request x.options) (h : w.Tallied k) :
    (w.closed i t n x).Tallied k := by
  have hcompleted : (w.closed i t n x).completed = w.completed ++
      [⟨x.request, x.options, ((i.onBoard t).finish x.ticket w.exchanges.state).2,
        t.elapsed x.ticket.inner⟩] := by
    simp only [completed, closed, Exchanges.closed, List.drop_append_of_le_length h.mark,
      List.filterMap_append]
    rfl
  constructor
  case mark =>
    simp only [closed, Exchanges.closed, List.length_append]
    exact Nat.le_add_right_of_le h.mark
  case stats =>
    rw [observer?_closed henabled hlog, h.stats, honce, hcompleted, Stats.tally_concat,
      Instrument.closing]
    split <;> rfl

theorem tallied_reset (h : w.Tallied k) : w.reset.Tallied k := by
  have hcompleted : w.reset.completed = [] := by
    rw [completed, reset, List.drop_length, List.filterMap_nil]
  constructor
  case mark => exact Nat.le_refl _
  case stats =>
    have hstats := h.stats
    unfold observer? at hstats ⊢
    rw [hcompleted]
    simp only [reset, Board.resetStats, List.getElem?_map, hstats]
    rfl

theorem tallied_run (henabled : i.config.enabled = true)
    (honce : i.receivers.leaves.count k = 1) (world : σ) {board : Board}
    (hfresh : board.observers[k]? = some (.stats {})) (steps : List Step) :
    (run i t world board steps).Tallied k := by
  apply run_induction
  case start => exact ⟨Nat.le_refl _, hfresh⟩
  case opened => exact fun w r o h => tallied_opened henabled honce h r o
  case closed => exact fun w n x _ _ _ hlog h => tallied_closed henabled honce hlog h
  case drop => exact fun w n _ h => ⟨h.mark, h.stats⟩
  case reset => exact fun w h => tallied_reset h

/-- Whatever calls are made through an observed transport, in any order and however
long they take, and however often statistics are reset: an observer that keeps
statistics and is told of each call once describes exactly the calls that were
closed since the last reset.  The calls to the endpoints add up to all calls, and no
call took longer than all of them.  Any other steps after which the same calls were
closed, in whatever order, lead to the same counters. -/
theorem statistics_describe (i : Instrument Nat) (t : Transport σ τ) (world : σ) (board : Board)
    (k : Nat) (henabled : i.config.enabled = true) (honce : i.receivers.leaves.count k = 1)
    (hfresh : board.observers[k]? = some (.stats {})) (steps : List Step) :
    let w := run i t world board steps
    w.completed.length < UInt64.size → (∀ c ∈ w.completed, c.Arrived) →
      ∃ s, w.stats? k = some s ∧ s.Describes w.completed ∧
        s.totalCalls.toNat
          = s.fetchCount.toNat + s.insertCount.toNat + s.updateCount.toNat
            + s.deleteCount.toNat ∧
        s.maxDuration.nanos ≤ s.totalDuration.nanos ∧
        ∀ steps', (run i t world board steps').completed.Perm w.completed →
          ∃ s', (run i t world board steps').stats? k = some s' ∧ s'.counters = s.counters := by
  intro w hroom harrived
  have hstats : ∀ steps, (run i t world board steps).stats? k
      = some (.tally (run i t world board steps).completed) := by
    intro steps
    rw [stats?, (tallied_run henabled honce world hfresh steps).stats]
  have hdescribes := Stats.describes_tally hroom harrived
  refine ⟨_, hstats steps, hdescribes, hdescribes.total_eq, hdescribes.longest_le, ?_⟩
  intro steps' hperm
  refine ⟨_, hstats steps', ?_⟩
  have hdescribes' := Stats.describes_tally (hperm.length_eq ▸ hroom)
    fun c hc => harrived c (hperm.mem_iff.mp hc)
  exact hdescribes.counters_eq hdescribes' hperm

/-- A deletion of one row. -/
def deletion : Request := .delete { tableName := "users", resourceId := some "7" }

/-- Three deletions: the first is over before a reset, and of the others the later
one is over first. -/
def overlappingDeletions : List Step :=
  [.use (.dispatch deletion {}), .use (.finish 0), .reset, .use (.dispatch deletion {}),
    .use (.send deletion {}), .use (.finish 2), .use (.finish 1)]

/-- Answers to them, of which the second takes longer than can be counted. -/
def slowAnswers : Script :=
  { replies :=
      [{ response := .ofBody 200 .null, elapsed := ⟨5⟩ },
        { response := .ofBody 500 .null, elapsed := ⟨UInt64.size⟩ },
        { response := .networkFailure "down", elapsed := ⟨7⟩ }] }

/-- One observer that keeps statistics, told of all calls. -/
def observedByStats : Instrument Nat :=
  { receivers := .several [.one 0], config := { enabled := true } }

/-- Both calls since the reset failed, and their time is the bound. -/
theorem statistics_describe_overlappingDeletions :
    ∃ s, (run observedByStats Script.transport slowAnswers { observers := [.stats {}] }
        overlappingDeletions).stats? 0 = some s ∧
      s.totalCalls.toNat = 2 ∧ s.deleteCount.toNat = 2 ∧ s.failedCalls.toNat = 2 ∧
        s.totalDuration.nanos = UInt64.size - 1 := by
  have hcompleted : (run observedByStats Script.transport slowAnswers { observers := [.stats {}] }
      overlappingDeletions).completed
        = [⟨deletion, {}, .networkFailure "down", ⟨7⟩⟩,
            ⟨deletion, {}, .ofBody 500 .null, ⟨UInt64.size⟩⟩] := rfl
  have harrived : ∀ c ∈ [(⟨deletion, {}, .networkFailure "down", ⟨7⟩⟩ : Completed),
      ⟨deletion, {}, .ofBody 500 .null, ⟨UInt64.size⟩⟩], c.Arrived := by
    intro c hc
    rcases List.mem_cons.mp hc with rfl | hc
    · exact ⟨.failure "down", rfl⟩
    · rw [List.mem_singleton.mp hc]
      exact ⟨.answer 500 .null, rfl⟩
  obtain ⟨s, hs, hdescribes, -⟩ := statistics_describe observedByStats Script.transport slowAnswers
    { observers := [.stats {}] } 0 rfl (by decide) rfl overlappingDeletions
    (by rw [hcompleted]; decide) (hcompleted ▸ harrived)
  rw [hcompleted] at hdescribes
  exact ⟨s, hs, hdescribes.total, hdescribes.endpoints .delete, hdescribes.failed,
    hdescribes.duration⟩

end Watch

end TableGateway
