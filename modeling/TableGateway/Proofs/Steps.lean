/-
Steps: the moves that operations are made of.

Whatever the operation, it changes a session by a few kinds of moves: a query is
bound to a name, a write is described, refined or resolved, a call is noted or
polled, a future is put aside or taken.  What each move keeps, every operation
keeps (`step_induction`), and so does every run (`run_induction`).
-/
import TableGateway.Proofs.Polling

namespace TableGateway

/-- The operation puts queries together: it opens, copies or extends one. -/
def Operation.Shapes : Operation → Prop
  | .openQuery _ _ => True
  | .cloneQuery _ _ => True
  | .clause _ _ => True
  | _ => False

namespace Session

variable {σ τ : Type}

/-- What the moves of an operation keep. -/
structure Keeps (op : Operation) (P : Session σ τ → Prop) : Prop where
  query : ∀ s name q, op.Shapes → P s → P { s with queries := s.queries.insert name q }
  describe : ∀ s w handle, P s → P { s with
    writes := s.writes ++ [w], handles := s.handles.insert handle s.writes.length }
  handle : ∀ s name i, P s → P { s with handles := s.handles.insert name i }
  refine : ∀ s i w r, s.writes[i]? = some w → P s →
    P { s with writes := s.writes.set i (w.refine r) }
  call : ∀ s r o, P s → P (s.newCall r o).1
  resolve : ∀ s i w call, s.writes[i]? = some w → P s →
    P { s with writes := s.writes.set i { w with stage := .resolved call } }
  keep : ∀ s name f, P s → P { s with futures := s.futures.insert name f }
  take : ∀ s name, P s → P { s with futures := s.futures.erase name }
  poll : ∀ s i, P s → P (s.pollCall i).1

section

variable {op : Operation} {P : Session σ τ → Prop}

theorem Keeps.pollAll (h : Keeps op P) {s : Session σ τ} (hs : P s) (calls : List Nat) :
    P (s.pollAll calls) :=
  pollAll_induction (fun s i _ => h.poll s i) hs

theorem awaitOrKeep_none_fst (s : Session σ τ) (f : Future) :
    (s.awaitOrKeep f none).1 = (s.awaitCall f.call).1 := by
  simp only [awaitOrKeep]
  rcases s.awaitCall f.call with ⟨s', _ | r⟩ <;> rfl

theorem Keeps.awaitOrKeep (h : Keeps op P) {s : Session σ τ} (hs : P s) (f : Future) :
    ∀ keep, P (s.awaitOrKeep f keep).1
  | some name => h.keep s name f hs
  | none => by
      obtain ⟨k, hk⟩ := exists_pollAll_awaitCall s f.call
      rw [awaitOrKeep_none_fst, hk]
      exact h.pollAll hs _

theorem write?_eq_some {s : Session σ τ} {handle : String} {i : Nat} {w : Write}
    (h : s.write? handle = some (i, w)) :
    s.handles.get? handle = some i ∧ s.writes[i]? = some w := by
  obtain ⟨j, hj, h⟩ := Option.bind_eq_some_iff.mp h
  obtain ⟨v, hv, h⟩ := Option.bind_eq_some_iff.mp h
  cases h
  exact ⟨hj, hv⟩

theorem resolve_resolved {s : Session σ τ} {i call : Nat} {w : Write}
    (h : w.stage = .resolved call) (given : Option Refinement) :
    s.resolve i w given = (s, call) := by
  simp only [resolve, h]

/-- The first trigger of a write notes a call for what is settled now. -/
theorem resolve_pending {s : Session σ τ} {w : Write} (h : ∀ call, w.stage ≠ .resolved call)
    (i : Nat) (given : Option Refinement) :
    s.resolve i w given =
      let r := Write.settle w.stage.recorded given
      ({ (s.newCall (w.requestFor r) (w.options r.options)).1 with
          writes := s.writes.set i { w with stage := .resolved s.calls.length } },
        s.calls.length) := by
  unfold resolve
  cases hstage : w.stage with
  | resolved call => exact absurd hstage (h call)
  | unrefined | refined recorded => rfl

theorem Keeps.settle (h : Keeps op P) {s : Session σ τ} (hs : P s) {i : Nat} {w : Write}
    (hw : s.writes[i]? = some w) (given : Option Refinement) :
    P (s.resolve i w given).1 := by
  simp only [Session.resolve]
  cases w.stage with
  | resolved call => exact hs
  | unrefined | refined r =>
      exact h.resolve _ i w _ hw (h.call s _ _ hs)

theorem Keeps.takeFutures (h : Keeps op P) :
    ∀ (names : List String) {s : Session σ τ}, P s → P (s.takeFutures names).1
  | [], _, hs => hs
  | name :: rest, s, hs => by
      simp only [Session.takeFutures]
      cases s.futures.get? name with
      | none => exact hs
      | some f => exact h.takeFutures rest (h.take s name hs)

/-- An operation keeps what its moves keep. -/
theorem step_induction (h : Keeps op P) {s : Session σ τ} (hs : P s) : P (s.step op).1 := by
  cases op with
  | openQuery name table => exact h.query s name _ trivial hs
  | cloneQuery name copy | clause name c =>
      simp only [step]
      cases s.queries.get? name with
      | none => exact hs
      | some q => exact h.query s _ _ trivial hs
  | fetch name f keep =>
      simp only [step]
      cases s.queries.get? name with
      | none => exact hs
      | some q => exact h.awaitOrKeep (h.call s _ _ hs) _ keep
  | write name w handle =>
      simp only [step]
      cases s.queries.get? name with
      | none => exact hs
      | some q =>
          cases hd : described q w with
          | error e => simpa only [hd] using hs
          | ok v => simpa only [hd] using h.describe s v handle hs
  | cloneHandle handle copy =>
      simp only [step]
      cases s.handles.get? handle with
      | none => exact hs
      | some i => exact h.handle s copy i hs
  | refine handle r =>
      simp only [step]
      cases hw : s.write? handle with
      | none => exact hs
      | some p => exact h.refine s p.1 p.2 r (write?_eq_some hw).2 hs
  | trigger handle t keep =>
      simp only [step]
      cases hw : s.write? handle with
      | none => exact hs
      | some p => exact h.awaitOrKeep (h.settle hs (write?_eq_some hw).2 t.refinement) _ keep
  | cloneFuture name copy =>
      simp only [step]
      cases s.futures.get? name with
      | none => exact hs
      | some f =>
          dsimp only
          split
          · exact h.keep s copy f hs
          · exact hs
  | await name =>
      simp only [step]
      cases s.futures.get? name with
      | none => exact hs
      | some f => exact h.awaitOrKeep (h.take s name hs) f none
  | poll name =>
      simp only [step]
      cases s.futures.get? name with
      | none => exact hs
      | some f =>
          have hp := h.poll s f.call hs
          dsimp only
          rcases hr : s.pollCall f.call with ⟨s', _ | r⟩
          · rw [hr] at hp
            exact hp
          · rw [hr] at hp
            exact h.take s' name hp
  | drop name =>
      simp only [step]
      cases s.futures.get? name with
      | none => exact hs
      | some f => exact h.take s name hs
  | join names =>
      simp only [step]
      have ht := h.takeFutures names hs
      rcases hr : s.takeFutures names with ⟨s', _ | fs⟩
      · rw [hr] at ht
        exact ht
      · rw [hr] at ht
        obtain ⟨calls, -, hc⟩ := exists_pollAll_joinCalls s' fs
        show P (s'.joinCalls fs).1
        rw [hc]
        exact h.pollAll ht _

end

/-- A run keeps what the moves of its operations keep. -/
theorem run_induction {P : Session σ τ → Prop} {ops : List Operation}
    (h : ∀ op ∈ ops, Keeps op P) {s : Session σ τ} (hs : P s) : P (s.run ops) := by
  induction ops generalizing s with
  | nil => exact hs
  | cons op rest ih =>
      exact ih (fun op hop => h op (List.mem_cons_of_mem _ hop))
        (step_induction (h op List.mem_cons_self) hs)

/-! ## What stays as it was at the start -/

theorem keeps_settings (op : Operation) (t : Transport σ τ) (defaults : Options) :
    Keeps op fun s => s.transport = t ∧ s.defaults = defaults where
  query _ _ _ _ h := h
  describe _ _ _ h := h
  handle _ _ _ h := h
  refine _ _ _ _ _ h := h
  call _ _ _ h := h
  resolve _ _ _ _ _ h := h
  keep _ _ _ h := h
  take _ _ h := h
  poll s i h := by
    have hsteady := steady_pollCall s i
    rw [hsteady.transport, hsteady.defaults]
    exact h

theorem transport_step (s : Session σ τ) (op : Operation) :
    (s.step op).1.transport = s.transport :=
  (step_induction (keeps_settings op s.transport s.defaults) ⟨rfl, rfl⟩).1

theorem defaults_run (s : Session σ τ) (ops : List Operation) :
    (s.run ops).defaults = s.defaults :=
  (run_induction (fun op _ => keeps_settings op s.transport s.defaults) ⟨rfl, rfl⟩).2

end Session

end TableGateway
