/-
Sharing: what a transport is to its several owners.

Queries and writes hold their transport in common.  As it is shared it passes the
operations of its endpoints on, but not a way of its own to send any request: what is sent
goes by its endpoint.  So sharing shows exactly where these two differ
(`Transport.shared_send_iff`), and a handle does what the operation of its endpoint does
(`Session.step_trigger_pending`).  Over a transport that sends writes by their endpoints
sessions go as if handles sent by its own way (`Transport.owned`); a transport that guards
its own way to send is shared without the guard (`Session.not_transparent_guarded`).
-/
import TableGateway.Proofs.Exchanges

namespace TableGateway

open Session

variable {σ τ : Type}

/-! ## The operations of a shared transport -/

namespace Transport

theorem shared_send_iff (t : Transport σ τ) (r : Request) (o : Options) (s : σ) :
    t.shared.send r o s = t.send r o s ↔ t.send r o s = t.dispatch r o s :=
  eq_comm

theorem shared_submit_iff (t : Transport σ τ) (r : Request) (o : Options) :
    t.shared.submit r o = t.submit r o ↔ t.submit r o = .later (t.dispatch r o) :=
  eq_comm

/-- Shared or not, a transport is the same if it has no way of its own to send. -/
theorem shared_eq_iff (t : Transport σ τ) :
    t.shared = t ↔ ∀ r o, t.submit r o = .later (t.dispatch r o) := by
  constructor
  · intro h r o
    exact (congrArg (fun t => t.submit r o) h).symm
  · intro h
    rw [shared, ← funext fun r => funext (h r)]

/-- What does nothing before it is polled is known by its polls. -/
theorem submit_eq_iff {t : Transport σ τ} (hlater : ∀ r o, t.submit r o = .later (t.send r o)) :
    (∀ r o, t.submit r o = .later (t.dispatch r o)) ↔ t.send = t.dispatch := by
  constructor
  · intro h
    funext r o
    rw [send, h r o]
    rfl
  · intro h r o
    rw [hlater, h]

/-- The transport whose writes all go by its own way to send, also when it is shared. -/
def owned (t : Transport σ τ) : Transport σ τ :=
  { t with
    insert := fun p => t.submit (.insert p)
    update := fun p => t.submit (.update p)
    delete := fun p => t.submit (.delete p)
    submit := t.submit }

/-- A handle over the owned transport sends by the transport's own way. -/
theorem owned_shared_send (t : Transport σ τ) {r : Request} (h : r.endpoint ≠ .fetch) :
    t.owned.shared.send r = t.send r := by
  cases r with
  | fetch p => exact absurd rfl h
  | insert p | update p | delete p => rfl

/-- Where writes are sent by their endpoints, the two are one to those who share them. -/
theorem projects_owned {t : Transport σ τ}
    (h : ∀ r o s, r.endpoint ≠ .fetch → t.send r o s = t.dispatch r o s) :
    t.Projects t.owned id id where
  dispatch r o s := by
    cases r with
    | fetch p => rfl
    | insert p | update p | delete p => exact h _ o s nofun
  polls _ := rfl
  finish _ _ := rfl

end Transport

/-! ## Triggers that are awaited -/

/-- What a trigger is answered with once the response to its request is there. -/
def Trigger.outcome (t : Trigger) (response : Response) : Outcome :=
  .result (if t.single then (Result.ofResponse response).single else .ofResponse response)

namespace Session

/-- The first trigger of a handle, if it is awaited, is a call of the transport as it is
shared for the request that is settled. -/
theorem step_trigger_pending {s : Session σ τ} {handle : String} {i : Nat} {w : Write}
    (hw : s.write? handle = some (i, w)) (hpending : ∀ call, w.stage ≠ .resolved call)
    (t : Trigger) :
    let r := Write.settle w.stage.recorded t.refinement
    let done := s.transport.shared.call (w.requestFor r) (w.options r.options) s.surroundings
    (s.step (.trigger handle t none)).1.surroundings = done.1 ∧
      (s.step (.trigger handle t none)).2 = .ok (t.outcome done.2) := by
  intro r done
  have hresolve := resolve_pending hpending i t.refinement (s := s)
  have hcall : (s.resolve i w t.refinement).1.calls[s.calls.length]?
      = some { request := w.requestFor r, options := w.options r.options } := by
    rw [hresolve]
    exact List.getElem?_concat_length
  obtain ⟨hstate, hanswer⟩ := awaitCall_unsent hcall rfl
  rw [hresolve] at hstate hanswer
  simp only [step, hw, hresolve, awaitOrKeep]
  generalize awaitCall _ s.calls.length = awaited at hstate hanswer
  obtain ⟨s', found⟩ := awaited
  cases hanswer
  exact ⟨hstate, rfl⟩

/-- Of any transport, also one with a way of its own to send: shared, it has the same
operations for the endpoints, and it sends a request as it does by itself exactly where its
own way does what the operation of the endpoint does; so it is the same transport exactly
if that is so everywhere and nothing is done before the first poll.  A handle of any run
that is set off and awaited has its request carried by the operation of the endpoint; the
response and the effects are those of the transport's own way if that does the same for the
request.  If it does so for all writes, every session goes as over the transport whose
handles send by its own way. -/
theorem sharing_iff (t : Transport σ τ) :
    (t.shared.toEndpoints = t.toEndpoints ∧
      (∀ r o s, t.shared.send r o s = t.send r o s ↔ t.send r o s = t.dispatch r o s) ∧
      (∀ r o, t.shared.submit r o = t.submit r o ↔ t.submit r o = .later (t.dispatch r o)) ∧
      (t.shared = t ↔ ∀ r o, t.submit r o = .later (t.dispatch r o)) ∧
      ((∀ r o, t.submit r o = .later (t.send r o)) →
        (t.shared = t ↔ t.send = t.dispatch))) ∧
    (∀ surroundings defaults before handle i w trigger,
      let s := (start t surroundings defaults).run before
      s.write? handle = some (i, w) → (∀ call, w.stage ≠ .resolved call) →
        let r := Write.settle w.stage.recorded trigger.refinement
        let request := w.requestFor r
        let options := w.options r.options
        let answered := s.step (.trigger handle trigger none)
        let told := fun done : σ × Response =>
          answered.1.surroundings = done.1 ∧ answered.2 = .ok (trigger.outcome done.2)
        told (t.shared.call request options s.surroundings) ∧
        (t.send request options s.surroundings = t.dispatch request options s.surroundings →
          told (t.call request options s.surroundings))) ∧
    (∀ r, r.endpoint ≠ .fetch → t.owned.shared.send r = t.send r) ∧
    ((∀ r o s, r.endpoint ≠ .fetch → t.send r o s = t.dispatch r o s) →
      ∀ surroundings defaults ops,
        let s := start t surroundings defaults
        let s' := start t.owned surroundings defaults
        s.trace ops = s'.trace ops ∧ (s.run ops).surroundings = (s'.run ops).surroundings ∧
        traffic t surroundings defaults ops = traffic t.owned surroundings defaults ops) := by
  refine ⟨⟨rfl, t.shared_send_iff, t.shared_submit_iff, t.shared_eq_iff, ?same⟩, ?handle,
    fun _ => t.owned_shared_send, ?run⟩
  case same =>
    intro hlater
    rw [t.shared_eq_iff, Transport.submit_eq_iff hlater]
  case handle =>
    intro surroundings defaults before handle i w trigger s hw hpending r request options
      answered told
    have hshared : told (t.shared.call request options s.surroundings) := by
      have htransport : s.transport = t :=
        (run_induction (fun op _ => keeps_settings op t defaults) ⟨rfl, rfl⟩).1
      have hstep := step_trigger_pending hw hpending trigger
      rwa [htransport] at hstep
    refine ⟨hshared, ?_⟩
    intro hsame
    have hcall : t.shared.call request options s.surroundings
        = t.call request options s.surroundings := by
      rw [Transport.call, (t.shared_send_iff ..).mpr hsame]
      rfl
    exact hcall ▸ hshared
  case run =>
    intro hsame surroundings defaults ops s s'
    have hprojects := Transport.projects_owned hsame
    have hrun := run_through (s := s) ops hprojects
    exact ⟨trace_of_projects hprojects surroundings defaults ops,
      (congrArg Session.surroundings hrun).symm,
      traffic_of_projects hprojects surroundings defaults ops⟩

end Session

/-! ## Transports that send in a way of their own -/

/-- A scripted transport whose own way to send is a guard, which refuses requests that are
not allowed. -/
def Script.guarded (allowed : Request → Bool) : Transport Script Reply :=
  { Script.transport with
    submit := fun r o => .later fun s =>
      if allowed r then take r o s
      else (s, { response := .networkFailure "request is not allowed" }) }

namespace Session

/-- An insert that is described and not set off. -/
def describedInsert : List Operation :=
  [.openQuery "users" "users",
    .write "users" (.insert (.map [(.text "name", .text "Ada")]) {}) "handle"]

/-- A guard against writes refuses the insert, and nothing comes in.  The handle sends it
past the guard, and it is carried out. -/
theorem not_transparent_guarded :
    let t := Script.guarded fun r => r.endpoint = .fetch
    let s := (start t {} {}).run describedInsert
    ∃ w, s.write? "handle" = some (0, w) ∧
      t.shared.send w.request (w.options none) s.surroundings
        ≠ t.send w.request (w.options none) s.surroundings ∧
      let refused := t.call w.request (w.options none) s.surroundings
      let answered := s.step (.trigger "handle" {} none)
      refused.1.sent.length = 0 ∧ refused.2.ok = false ∧
      answered.1.surroundings.sent.length = 1 ∧
      ∃ r, answered.2 = .ok (.result r) ∧ r.isOk = true := by
  intro t s
  refine ⟨_, rfl, ?_, rfl, rfl, rfl, _, rfl, rfl⟩
  intro h
  have hlength := congrArg (fun taken => taken.1.sent.length) h
  cases hlength

/-- A guard against fetches lets the insert pass, and the handle does what the guard does. -/
theorem sharing_guarded :
    let t := Script.guarded fun r => r.endpoint ≠ .fetch
    let s := (start t {} {}).run describedInsert
    let ops := describedInsert ++ [.trigger "handle" {} none]
    ∃ w, s.write? "handle" = some (0, w) ∧
      let own := t.call w.request (w.options none) s.surroundings
      let answered := s.step (.trigger "handle" {} none)
      answered.1.surroundings = own.1 ∧ answered.2 = .ok (.result (.ofResponse own.2)) ∧
      (start t {} {}).trace ops = (start t.owned {} {}).trace ops := by
  intro t s ops
  have hwrites : ∀ r o script, r.endpoint ≠ .fetch → t.send r o script = t.dispatch r o script := by
    intro r o script hr
    have hallowed : t.send r o script = Script.take r o script := if_pos (decide_eq_true hr)
    cases r <;> exact hallowed
  obtain ⟨-, hhandles, -, hsessions⟩ := sharing_iff t
  obtain ⟨-, htold⟩ := hhandles {} {} describedInsert "handle" 0 _ {} rfl nofun
  obtain ⟨hstate, hanswer⟩ := htold (hwrites _ _ _ nofun)
  exact ⟨_, rfl, hstate, hanswer, (hsessions hwrites {} {} ops).1⟩

end Session

end TableGateway
