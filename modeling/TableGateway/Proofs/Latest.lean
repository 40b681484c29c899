/-
Latest calls: what an observer that keeps them knows after any events.

Starts and completions may come in any order, those of one call among those of others,
and even completions without a start.  The call that started last is known, the response
that came last, and the error of that response unless a call has started since.

How many calls are under way is counted up and down and never below zero, so it is not
the difference of starts and completions: a completion that finds nothing under way is
forgotten.  What is left is the largest surplus of starts over completions that the events
from some moment on have (`LastCall.isGreatest_inFlight`), and the difference of all
starts and completions if no completion ever came without a start
(`LastCall.inFlight_of_balanced`).  The count has 64 bits, so both need that it never
reaches the number at which it starts over (`Event.Fits`); the latest calls do not.
-/
import Mathlib.Data.List.Infix
import Mathlib.Order.Bounds.Basic
import Mathlib.Order.Bounds.Image
import Mathlib.Tactic.Ring
import TableGateway.Observe.Fanout
import TableGateway.Proofs.LastSet

namespace TableGateway

/-! ## Events -/

namespace Event

/-- The call that starts. -/
def started? : Event → Option CallLog
  | start c => some c
  | _ => none

/-- The response of the call that completes. -/
def completed? : Event → Option ResponseLog
  | complete _ r => some r
  | _ => none

/-- The error with which a call completes. -/
def error? : Event → Option String
  | complete _ r => r.error
  | _ => none

/-- A call starts or completes. -/
def bounds : Event → Bool
  | slow _ _ => false
  | _ => true

/-- The last start or completion. -/
def latest? (es : List Event) : Option Event := (es.filter bounds).getLast?

def starts (es : List Event) : Nat := (es.filterMap started?).length

def completions (es : List Event) : Nat := (es.filterMap completed?).length

/-- How many more calls start than complete. -/
def surplus (es : List Event) : Int := starts es - completions es

/-- The surpluses of the events from some moment on. -/
def surpluses (es : List Event) : Set Int := {n | ∃ later, later <:+ es ∧ surplus later = n}

/-- No stretch of the events has a surplus that 64 bits cannot hold. -/
def Fits (es : List Event) : Prop := ∀ stretch, stretch <:+: es → surplus stretch < UInt64.size

theorem surplus_append (es later : List Event) :
    surplus (es ++ later) = surplus es + surplus later := by
  simp only [surplus, starts, completions, List.filterMap_append, List.length_append]
  push_cast
  ring

/-- One more event adds to all surpluses, and there is the one of no events. -/
theorem surpluses_concat (es : List Event) (e : Event) :
    surpluses (es ++ [e]) = insert 0 ((· + surplus [e]) '' surpluses es) := by
  ext n
  simp only [surpluses, Set.mem_insert_iff, Set.mem_image, Set.mem_ofPred_eq]
  constructor
  · rintro ⟨later, hlater, rfl⟩
    rcases List.suffix_concat_iff.mp hlater with rfl | ⟨rest, rfl, hrest⟩
    · exact Or.inl rfl
    · exact Or.inr ⟨_, ⟨rest, hrest, rfl⟩, (surplus_append rest [e]).symm⟩
  · rintro (rfl | ⟨_, ⟨rest, hrest, rfl⟩, rfl⟩)
    · exact ⟨[], List.nil_suffix, rfl⟩
    · exact ⟨rest ++ [e], List.suffix_concat_iff.mpr (Or.inr ⟨rest, rfl, hrest⟩),
        surplus_append rest [e]⟩

theorem fits_of_starts {es : List Event} (h : starts es < UInt64.size) : Fits es := by
  intro stretch hstretch
  have hle : starts stretch ≤ starts es := (hstretch.sublist.filterMap started?).length_le
  rw [surplus]
  omega

theorem Fits.mono {es later : List Event} (h : Fits es) (hlater : later <:+: es) : Fits later :=
  fun stretch hstretch => h stretch (hstretch.trans hlater)

end Event

/-! ## One more event -/

namespace LastCall

open Event

/-- What is known of the latest calls after an event. -/
def after (l : LastCall) : Event → LastCall
  | .start c => l.start c
  | .slow _ _ => l
  | .complete _ r => l.complete r

/-- What is known after some events, first one first. -/
def ofEvents (es : List Event) : LastCall := es.foldl after {}

theorem ofEvents_concat (es : List Event) (e : Event) :
    ofEvents (es ++ [e]) = (ofEvents es).after e :=
  List.foldl_concat ..

theorem request_after (l : LastCall) (e : Event) :
    (l.after e).request = e.started?.or l.request := by
  cases e <;> rfl

theorem response_after (l : LastCall) (e : Event) :
    (l.after e).response = e.completed?.or l.response := by
  cases e <;> rfl

theorem toNat_inFlight_start (l : LastCall) (c : CallLog)
    (h : l.inFlight.toNat + 1 < UInt64.size) :
    (l.start c).inFlight.toNat = l.inFlight.toNat + 1 := by
  rw [start, UInt64.toNat_add, UInt64.toNat_one, Nat.mod_eq_of_lt h]

/-- A completion that finds nothing under way takes nothing off. -/
theorem toNat_inFlight_complete (l : LastCall) (r : ResponseLog) :
    (l.complete r).inFlight.toNat = l.inFlight.toNat - 1 := by
  rw [complete]
  split
  case isTrue h => rw [h, UInt64.toNat_zero]
  case isFalse h =>
    have hle : 1 ≤ l.inFlight := UInt64.le_iff_toNat_le.mpr
      (Nat.pos_of_ne_zero fun hzero => h (UInt64.toNat_inj.mp hzero))
    rw [UInt64.toNat_sub_of_le _ _ hle, UInt64.toNat_one]

theorem inFlight_after (l : LastCall) (e : Event)
    (hfits : l.inFlight.toNat + surplus [e] < UInt64.size) :
    ((l.after e).inFlight.toNat : Int) = max 0 (l.inFlight.toNat + surplus [e]) := by
  cases e with
  | start c =>
      have hone : surplus [.start c] = 1 := rfl
      have hstart := toNat_inFlight_start l c (by omega)
      rw [after, hone]
      omega
  | slow c elapsed =>
      have hnone : surplus [.slow c elapsed] = 0 := rfl
      rw [after, hnone]
      omega
  | complete c r =>
      have hless : surplus [.complete c r] = -1 := rfl
      have hcomplete := toNat_inFlight_complete l r
      rw [after, hless]
      omega

/-! ## Any events -/

theorem error_ofEvents (es : List Event) : (ofEvents es).error = (latest? es).bind error? := by
  induction es using List.reverseRecOn with
  | nil => rfl
  | append_singleton es e ih =>
      rw [ofEvents_concat, latest?, List.filter_append, List.getLast?_append]
      cases e with
      | start c | complete c r => rfl
      | slow c elapsed => exact ih

/-- The calls under way are as many as the greatest surplus says. -/
theorem isGreatest_inFlight {es : List Event} (hfits : Fits es) :
    IsGreatest (surpluses es) ((ofEvents es).inFlight.toNat : Int) := by
  induction es using List.reverseRecOn with
  | nil =>
      refine ⟨⟨[], List.nil_suffix, rfl⟩, ?_⟩
      rintro n ⟨later, hlater, rfl⟩
      rw [List.suffix_nil.mp hlater]
      exact le_refl 0
  | append_singleton es e ih =>
      have hbefore := ih (hfits.mono (List.prefix_append es [e]).isInfix)
      obtain ⟨⟨later, hlater, hcount⟩, -⟩ := id hbefore
      -- the count is the surplus of a stretch, and that of one event more fits too
      have hone : (ofEvents es).inFlight.toNat + surplus [e] < UInt64.size := by
        rw [← hcount, ← surplus_append]
        exact hfits _ (List.suffix_concat_iff.mpr (Or.inr ⟨later, rfl, hlater⟩)).isInfix
      rw [ofEvents_concat, inFlight_after _ e hone, surpluses_concat]
      have hmono : Monotone fun n : Int => n + surplus [e] := fun _ _ h => Int.add_le_add_right h _
      exact (hmono.map_isGreatest hbefore).insert 0

/-- If no completion came without a start, the surplus of all events is the greatest. -/
theorem inFlight_of_balanced {es : List Event} (hfits : Fits es)
    (h : ∀ earlier, earlier <+: es → completions earlier ≤ starts earlier) :
    ((ofEvents es).inFlight.toNat : Int) = surplus es := by
  refine (isGreatest_inFlight hfits).unique ⟨⟨es, List.suffix_refl es, rfl⟩, ?_⟩
  rintro n ⟨later, ⟨earlier, rfl⟩, rfl⟩
  have hbalanced : 0 ≤ surplus earlier :=
    Int.sub_nonneg_of_le (Int.ofNat_le.mpr (h earlier (List.prefix_append earlier later)))
  rw [surplus_append]
  omega

end LastCall

namespace Observer

open Event

theorem gather_lastCall (l : LastCall) (e : Event) :
    (lastCall l).gather e = lastCall (l.after e) := by
  cases e <;> rfl

theorem foldl_gather_lastCall (es : List Event) (l : LastCall) :
    es.foldl gather (lastCall l) = lastCall (es.foldl LastCall.after l) := by
  induction es generalizing l with
  | nil => rfl
  | cons e rest ih => rw [List.foldl_cons, gather_lastCall, ih, List.foldl_cons]

/-- After any events an observer of the latest calls knows the call that started last and
the response that came last, and its error if no call has started since.  The number of
calls under way is the difference of starts and completions if at no time there were more
completions than starts, and in all cases the greatest such difference over the events
from some moment on, which is not below zero since the moment may be the last.  It is a
number of 64 bits, and this is so unless the differences outgrow it. -/
theorem latest_calls (es : List Event) :
    ∃ l, es.foldl gather (lastCall {}) = lastCall l ∧
      l.request = (es.filterMap started?).getLast? ∧
      l.response = (es.filterMap completed?).getLast? ∧
      l.error = (latest? es).bind error? ∧
      ((∀ stretch, stretch <:+: es → surplus stretch < UInt64.size) →
        ((∀ earlier, earlier <+: es → completions earlier ≤ starts earlier) →
          l.inFlight.toNat + completions es = starts es) ∧
        IsGreatest (surpluses es) (l.inFlight.toNat : Int)) := by
  refine ⟨LastCall.ofEvents es, foldl_gather_lastCall es {}, ?_, ?_, LastCall.error_ofEvents es,
    fun hfits => ⟨?_, LastCall.isGreatest_inFlight hfits⟩⟩
  · exact (field_foldl LastCall.request_after es {}).trans Option.or_none
  · exact (field_foldl LastCall.response_after es {}).trans Option.or_none
  · intro h
    have hflight := LastCall.inFlight_of_balanced hfits h
    rw [surplus] at hflight
    omega

/-- A lookup and an insertion that overlap: the insertion starts last and is still under
way when the lookup has failed. -/
def overlapping : List Event :=
  let lookup := CallLog.make .fetch (.object [("table_name", .string "users")]) {}
  let insertion := CallLog.make .insert (.object [("table_name", .string "orders")]) {}
  [.start lookup, .start insertion, .complete lookup ⟨0, false, some "timeout", ⟨9⟩⟩]

/-- The insertion is the latest call, the error that of the lookup, and one call is under
way. -/
theorem latest_calls_overlapping :
    ∃ l, overlapping.foldl gather (lastCall {}) = lastCall l ∧
      l.request.bind CallLog.table? = some "orders" ∧ l.error = some "timeout" ∧
      l.inFlight.toNat = 1 := by
  obtain ⟨l, hl, hrequest, -, herror, hflight⟩ := latest_calls overlapping
  have hbalanced : ∀ earlier ∈ overlapping.inits, completions earlier ≤ starts earlier := by
    decide
  have hone : l.inFlight.toNat + 1 = 2 :=
    (hflight (fits_of_starts (by decide))).1 fun earlier h =>
      hbalanced earlier ((List.mem_inits earlier overlapping).mpr h)
  refine ⟨l, hl, ?_, herror, by omega⟩
  rw [hrequest]
  rfl

end Observer

end TableGateway
