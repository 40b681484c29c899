/-
Provenance: each response is what the transport made of its own request.

A call that waits holds the ticket that the transport handed out for its request,
and the response in the record is what that very ticket was turned in for
(`Sourced`).  So a result that a caller gets goes back to the request of its
origin and to nothing else (`exists_source_of_yield`), whatever the transport;
and what the transport keeps of its state holds of the states in which it took
the request and gave the response.
-/
import TableGateway.Proofs.SingleFlight

namespace TableGateway

open Session

variable {σ τ : Type}

namespace Transport

/-- What holds of the state of the transport goes on to hold. -/
structure Preserves (t : Transport σ τ) (I : σ → Prop) : Prop where
  dispatch : ∀ r o s, I s → I (t.dispatch r o s).1
  finish : ∀ ticket s, I s → I (t.finish ticket s).1

/-- The ticket is one that the transport hands out for the request. -/
def HandsOut (t : Transport σ τ) (I : σ → Prop) (content : Request × Options) (ticket : τ) :
    Prop :=
  ∃ s, I s ∧ ticket = (t.dispatch content.1 content.2 s).2

/-- The response is one that the transport gives for such a ticket. -/
def Gives (t : Transport σ τ) (I : σ → Prop) (content : Request × Options) (response : Response) :
    Prop :=
  ∃ ticket s, t.HandsOut I content ticket ∧ I s ∧ response = (t.finish ticket s).2

end Transport

namespace Session

/-- Tickets and responses come from the requests at their places. -/
structure Sourced (t : Transport σ τ) (I : σ → Prop) (s : Session (σ × Traffic) (τ × Nat)) :
    Prop where
  transport : s.transport = t.recorded
  state : I s.surroundings.1
  waiting : ∀ i ticket left, s.progress? i = some (.waiting ticket left) →
    ∃ content, s.surroundings.2.received[ticket.2]? = some content ∧
      t.HandsOut I content ticket.1
  answered : ∀ k response, (k, response) ∈ s.surroundings.2.answered →
    ∃ content, s.surroundings.2.received[k]? = some content ∧ t.Gives I content response

variable {t : Transport σ τ} {I : σ → Prop} {s : Session (σ × Traffic) (τ × Nat)}

/-! ## Polls -/

theorem sourced_sendCall (hI : t.Preserves I) {i : Nat} (h : s.Sourced t I)
    (hp : s.progress? i = some .unsent) : (s.sendCall i).Sourced t I := by
  obtain ⟨c, hc, -⟩ := exists_call_of_progress? hp
  have hsurroundings := surroundings_sendCall h.transport hc
  have hreceived : ∀ {k : Nat} {content}, s.surroundings.2.received[k]? = some content →
      (s.sendCall i).surroundings.2.received[k]? = some content := by
    intro k content hk
    rw [hsurroundings]
    exact getElem?_append_of_eq_some hk _
  refine ⟨(steady_sendCall s i).transport.trans h.transport, ?_, ?_, ?_⟩
  · rw [hsurroundings]
    exact hI.dispatch _ _ _ h.state
  · intro j ticket left hj
    by_cases hij : i = j
    · subst hij
      rw [progress?_sendCall_self hc, ticket_send h.transport] at hj
      cases hj
      rw [hsurroundings]
      exact ⟨c.content, List.getElem?_concat_length, _, h.state, rfl⟩
    · rw [progress?_sendCall_ne s hij] at hj
      obtain ⟨content, hcontent, hticket⟩ := h.waiting j ticket left hj
      exact ⟨content, hreceived hcontent, hticket⟩
  · intro k response hmem
    rw [hsurroundings] at hmem
    obtain ⟨content, hcontent, hgives⟩ := h.answered k response hmem
    exact ⟨content, hreceived hcontent, hgives⟩

theorem sourced_wait {i left : Nat} {ticket : τ × Nat} (h : s.Sourced t I)
    (hp : s.progress? i = some (.waiting ticket (left + 1))) :
    (s.setProgress i (.waiting ticket left)).Sourced t I := by
  refine ⟨h.transport, h.state, ?_, h.answered⟩
  intro j ticket' left' hj
  rw [progress?_setProgress] at hj
  split at hj
  case isTrue hij =>
    subst hij
    rw [hp] at hj
    cases hj
    exact h.waiting i ticket _ hp
  case isFalse => exact h.waiting j ticket' left' hj

theorem sourced_finishCall (hI : t.Preserves I) {i : Nat} {ticket : τ × Nat} (h : s.Sourced t I)
    (hp : s.progress? i = some (.waiting ticket 0)) : (s.finishCall i ticket).Sourced t I := by
  have hsurroundings := surroundings_finishCall h.transport i ticket
  refine ⟨(steady_finishCall s i ticket).transport.trans h.transport, ?_, ?_, ?_⟩
  · rw [hsurroundings]
    exact hI.finish _ _ h.state
  · intro j ticket' left hj
    rw [hsurroundings]
    rw [progress?_finishCall] at hj
    split at hj
    case isTrue hij =>
      subst hij
      rw [hp] at hj
      cases hj
    case isFalse => exact h.waiting j ticket' left hj
  · intro k response hmem
    rw [hsurroundings] at hmem ⊢
    rcases List.mem_append.mp hmem with hmem | hmem
    · exact h.answered k response hmem
    · cases List.mem_singleton.mp hmem
      obtain ⟨content, hcontent, hticket⟩ := h.waiting i ticket 0 hp
      exact ⟨content, hcontent, ticket.1, _, hticket, h.state, rfl⟩

theorem sourced_pollCall (hI : t.Preserves I) (h : s.Sourced t I) (i : Nat) :
    (s.pollCall i).1.Sourced t I :=
  pollCall_induction i (fun _ hp h => sourced_sendCall hI h hp)
    (fun _ _ _ hp h => sourced_wait h hp) (fun _ _ hp h => sourced_finishCall hI h hp) s h

/-! ## Runs -/

/-- A new call does not wait. -/
theorem sourced_newCall (h : s.Sourced t I) (r : Request) (o : Options) :
    (s.newCall r o).1.Sourced t I := by
  refine ⟨h.transport, h.state, ?_, h.answered⟩
  intro i ticket left hi
  rcases progress?_newCall hi with hi | ⟨-, hnew⟩
  · exact h.waiting i ticket left hi
  · cases hnew

theorem keeps_sourced (op : Operation) (hI : t.Preserves I) :
    Keeps op fun s : Session (σ × Traffic) (τ × Nat) => s.Sourced t I where
  query _ _ _ _ h := ⟨h.transport, h.state, h.waiting, h.answered⟩
  describe _ _ _ h := ⟨h.transport, h.state, h.waiting, h.answered⟩
  handle _ _ _ h := ⟨h.transport, h.state, h.waiting, h.answered⟩
  refine _ _ _ _ _ h := ⟨h.transport, h.state, h.waiting, h.answered⟩
  call _ r o h := sourced_newCall h r o
  resolve _ _ _ _ _ h := ⟨h.transport, h.state, h.waiting, h.answered⟩
  keep _ _ _ h := ⟨h.transport, h.state, h.waiting, h.answered⟩
  take _ _ h := ⟨h.transport, h.state, h.waiting, h.answered⟩
  poll _ i h := sourced_pollCall hI h i

section

variable {surroundings : σ}

theorem sourced_run (hI : t.Preserves I) (hstart : I surroundings) (defaults : Options)
    (ops : List Operation) : ((observed t surroundings defaults).run ops).Sourced t I :=
  run_induction (fun op _ => keeps_sourced op hI) ⟨rfl, hstart, nofun, nofun⟩

/-- What a future yields is its view of a response that the transport gave to the
request of its origin. -/
theorem exists_source_of_yield (hI : t.Preserves I) (hstart : I surroundings)
    (defaults : Options) (ops : List Operation) {y : Held × Result Json}
    (hy : y ∈ ((start t surroundings defaults).account ops).yields) :
    let c := (start t surroundings defaults).account ops
    ∃ content response,
      c.request? (traffic t surroundings defaults ops) y.1.origin = some content ∧
      c.response? (traffic t surroundings defaults ops) y.1.origin = some response ∧
      t.Gives I content response ∧ y.2 = y.1.view (.ofResponse response) := by
  obtain ⟨owners, polls, h⟩ := exists_agrees_account t surroundings defaults ops
  obtain ⟨k, response, hk, hmem, hview⟩ := h.answered hy
  obtain ⟨content, hcontent, hgives⟩ :=
    (sourced_run hI hstart defaults ops).answered k response hmem
  have hplace := Chronicle.idxOf_flights hk
  refine ⟨content, response, ?_, ?_, hgives, hview⟩
  · rw [Chronicle.request?, hplace]
    exact hcontent
  · rw [Chronicle.response?, hplace]
    exact Entries.lookup_of_mem h.flown.once hmem

end

end Session

end TableGateway
