/-
Departures: when the request of a handle goes out.

A handle is resolved from its first trigger on.  A trigger sends nothing by itself: the
request goes out when some future of the handle is polled for the first time, and a
handle whose futures are kept or dropped before that stays resolved without a request
(`resolved_before_received`).  So the state tells that the handle was set off and that
its request is settled, and no more; the request is there exactly when one of the
futures was polled (`resolved_received_iff`).
-/
import TableGateway.Proofs.Preview

namespace TableGateway

open Session

variable {σ τ : Type}

namespace Plan

/-- A trigger settles the plan, whatever comes before and after it. -/
theorem exists_settled_of_trigger {calls : List HandleCall} {given : Option Refinement}
    (h : .trigger given ∈ calls) : ∃ r, ofCalls calls = settled r := by
  obtain ⟨before, later, rfl⟩ := List.append_of_mem h
  have hsettled : ∃ r, ofCalls (before ++ [.trigger given]) = settled r := by
    rw [ofCalls_concat]
    cases ofCalls before with
    | pending recorded => exact ⟨_, rfl⟩
    | settled r => exact ⟨r, rfl⟩
  -- what comes after the trigger finds a settled plan
  obtain ⟨r, hr⟩ := hsettled
  rw [List.append_cons]
  exact ⟨r, ofCalls_append hr later⟩

/-- Nothing but a trigger settles it. -/
theorem exists_trigger_of_settled {calls : List HandleCall} {r : Refinement}
    (h : ofCalls calls = settled r) : ∃ given, .trigger given ∈ calls := by
  induction calls using List.reverseRecOn with
  | nil => cases h
  | append_singleton calls call ih =>
      cases call with
      | trigger given => exact ⟨given, List.mem_append_right _ List.mem_cons_self⟩
      | refine r' =>
          rw [ofCalls_concat] at h
          cases hplan : ofCalls calls with
          | pending recorded =>
              rw [hplan] at h
              cases h
          | settled r'' =>
              rw [hplan] at h
              cases h
              obtain ⟨given, hgiven⟩ := ih hplan
              exact ⟨given, List.mem_append_left _ hgiven⟩

end Plan

/-- The handle was set off: one of its triggers was called. -/
def Described.SetOff (d : Described) : Prop := ∃ given, .trigger given ∈ d.calls

theorem Described.setOff_iff {d : Described} :
    d.SetOff ↔ ∃ r, Plan.ofCalls d.calls = .settled r :=
  ⟨fun ⟨_, h⟩ => Plan.exists_settled_of_trigger h, fun ⟨_, h⟩ => Plan.exists_trigger_of_settled h⟩

/-- What has something to send was set off. -/
theorem Described.setOff_of_content {d : Described} {defaults : Options}
    {content : Request × Options} (h : d.content defaults = some content) : d.SetOff := by
  obtain ⟨w, r, -, hplan, -⟩ := Chronicle.content_eq_some_iff.mp h
  exact setOff_iff.mpr ⟨r, hplan⟩

namespace Session

/-- The state of a write tells whether it was set off. -/
theorem Stands.resolved_iff {defaults : Options} {owners : List Origin} {i : Nat} {w : Write}
    {d : Described} (h : Stands defaults owners i w d) :
    (∃ call, w.stage = .resolved call) ↔ d.SetOff := by
  rw [Described.setOff_iff]
  constructor
  · rintro ⟨call, hcall⟩
    exact exists_settled_of_shows (hcall ▸ h.stage)
  · rintro ⟨r, hr⟩
    have hstage := h.stage
    rw [hr] at hstage
    obtain ⟨call, hcall, -⟩ := hstage
    exact ⟨call, hcall⟩

/-- For what was not polled no request was received. -/
theorem Agrees.request?_eq_none {s : Session (σ × Traffic) (τ × Nat)} {c : Chronicle}
    {owners : List Origin} {polls : List Nat} {o : Origin} (h : s.Agrees c owners polls)
    (ho : o ∉ c.polls) : c.request? s.surroundings.2 o = none := by
  have hlength := congrArg List.length h.received
  rw [List.length_map, List.length_map] at hlength
  have hplace : c.flights.idxOf o = c.flights.length :=
    List.idxOf_eq_length_iff.mpr fun hmem => ho (Chronicle.mem_flights.mp hmem)
  rw [Chronicle.request?, hplace, ← hlength]
  exact List.getElem?_eq_none (Nat.le_refl _)

/-- Of any handle at any time, however its triggers were called and whatever became of
their futures: it is resolved exactly when it was set off, and it was set off if one of
its futures was polled.  Once it is resolved there is one request that it is to send, and
the transport has received that exactly when one of its futures was polled; else it has
received none for it. -/
theorem resolved_received_iff (t : Transport σ τ) (surroundings : σ) (defaults : Options)
    (ops : List Operation) (handle : String) (i : Nat) (w : Write)
    (hw : ((start t surroundings defaults).run ops).write? handle = some (i, w)) :
    let c := (start t surroundings defaults).account ops
    let traffic := traffic t surroundings defaults ops
    (∃ d, c.writes[i]? = some d ∧ ((∃ call, w.stage = .resolved call) ↔ d.SetOff)) ∧
    (.write i ∈ c.polls → ∃ call, w.stage = .resolved call) ∧
    ((∃ call, w.stage = .resolved call) →
      ∃ content, c.sent defaults (.write i) = some content ∧
        (c.request? traffic (.write i) = some content ↔ .write i ∈ c.polls) ∧
        (c.request? traffic (.write i) = none ↔ .write i ∉ c.polls)) := by
  intro c traffic
  obtain ⟨_, d, -, hd, hstands⟩ := exists_stands_of_write? t surroundings defaults ops hw
  obtain ⟨owners, polls, h⟩ := exists_agrees_account t surroundings defaults ops
  refine ⟨⟨d, hd, hstands.resolved_iff⟩, ?_, ?_⟩
  · intro hpolled
    obtain ⟨content, hsent, -⟩ := h.exists_request hpolled
    rw [Chronicle.sent, hd] at hsent
    exact hstands.resolved_iff.mpr (Described.setOff_of_content hsent)
  · rintro ⟨call, hresolved⟩
    obtain ⟨r, hsent, hrequest⟩ := exists_sent_of_resolved t surroundings defaults ops hw hresolved
    have hnone : .write i ∉ c.polls → c.request? traffic (.write i) = none := h.request?_eq_none
    refine ⟨_, hsent, ⟨?_, hrequest⟩, ⟨?_, hnone⟩⟩
    · intro hsome
      by_contra hunpolled
      cases (hnone hunpolled).symm.trans hsome
    · intro hmissing hpolled
      cases hmissing.symm.trans (hrequest hpolled)

/-- An insert that is executed, its future put aside. -/
def keptInsert : List Operation :=
  [.openQuery "users" "users",
    .write "users" (.insert (.map [(.text "name", .text "Ada")]) {}) "handle",
    .trigger "handle" {} (some "first")]

/-- The handle is resolved, and the transport has received nothing at all. -/
theorem resolved_before_received :
    ∃ w call, ((start Script.transport {} {}).run keptInsert).write? "handle" = some (0, w) ∧
      w.stage = .resolved call ∧ (traffic Script.transport {} {} keptInsert).received = [] :=
  ⟨_, _, rfl, rfl, rfl⟩

/-- Once the future that was put aside is polled, the request is there. -/
theorem resolved_received_polledInsert :
    ∃ w content, ((start Script.transport {} {}).run (keptInsert ++ [.poll "first"])).write? "handle"
        = some (0, w) ∧
      w.stage = .resolved 0 ∧
      ((start Script.transport {} {}).account (keptInsert ++ [.poll "first"])).request?
          (traffic Script.transport {} {} (keptInsert ++ [.poll "first"])) (.write 0)
        = some content := by
  obtain ⟨-, -, hresolved⟩ := resolved_received_iff Script.transport {} {}
    (keptInsert ++ [.poll "first"]) "handle" 0 _ rfl
  obtain ⟨content, -, hreceived, -⟩ := hresolved ⟨0, rfl⟩
  exact ⟨_, content, rfl, rfl, hreceived.mpr (by decide)⟩

end Session

end TableGateway
