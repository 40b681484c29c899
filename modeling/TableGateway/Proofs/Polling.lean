/-
Polling: what one poll does, and that polling ends.

A poll moves one call one step along: a call that is not sent yet is sent, a
call that is waiting comes one poll closer to its response, and a finished call
stays as it is (`pollCall_induction`).  All that a session does to its calls
once they are noted is polling, so what a poll preserves is preserved by every
await and every join (`exists_pollAll_awaitCall`, `exists_pollAll_joinCalls`).

Main statements: an await gives a result (`awaitCall_isSome`), a join gives one
for each of its futures (`joinCalls_snd`), and both give what the call table
then holds for the call.  An await of a call that is not sent yet is one call of
the transport as it is shared (`awaitCall_unsent`).
-/
import TableGateway.Session

namespace TableGateway

/-- A map passes a change at a place on to what it makes of the list. -/
theorem map_modify {α β : Type} {f : α → β} {g : α → α} {h : β → β} (hfg : ∀ a, f (g a) = h (f a))
    (l : List α) (i : Nat) : (l.modify i g).map f = (l.map f).modify i h := by
  apply List.ext_getElem?
  intro j
  rw [List.getElem?_modify, List.getElem?_map, List.getElem?_map, List.getElem?_modify]
  by_cases hij : i = j
  · simp only [hij, if_true]
    cases l[j]? with
    | none => rfl
    | some a => exact congrArg some (hfg a)
  · simp only [hij, if_false, id_map']

/-- What a call sends. -/
def Call.content {τ : Type} (c : Call τ) : Request × Options := (c.request, c.options)

namespace Session

variable {σ τ : Type}

/-! ## Progress -/

/-- How far a call has got. -/
def progress? (s : Session σ τ) (i : Nat) : Option (Progress τ) :=
  s.calls[i]?.map Call.progress

theorem exists_call_of_progress? {s : Session σ τ} {i : Nat} {p : Progress τ}
    (h : s.progress? i = some p) : ∃ c, s.calls[i]? = some c ∧ c.progress = p :=
  Option.map_eq_some_iff.mp h

/-- What a progress has come to. -/
def outcome? : Progress τ → Option (Result Json)
  | .finished r => some r
  | _ => none

/-- The result of a call, once it is finished. -/
def result? (s : Session σ τ) (i : Nat) : Option (Result Json) :=
  (s.progress? i).bind outcome?

/-- The transport has taken the call. -/
def Taken (s : Session σ τ) (i : Nat) : Prop :=
  ∃ p, s.progress? i = some p ∧ p ≠ .unsent

/-- Sends the call of this number. -/
def sendCall (s : Session σ τ) (i : Nat) : Session σ τ :=
  match s.calls[i]? with
  | none => s
  | some c => (s.send c).1.setProgress i (.waiting (s.send c).2 (s.transport.polls (s.send c).2))

/-- Turns in the ticket of a call. -/
def finishCall (s : Session σ τ) (i : Nat) (ticket : τ) : Session σ τ :=
  { s with surroundings := (s.transport.finish ticket s.surroundings).1 }.setProgress i
    (.finished (.ofResponse (s.transport.finish ticket s.surroundings).2))

theorem pollTaken_zero (s : Session σ τ) (i : Nat) (ticket : τ) :
    s.pollTaken i ticket 0 = (s.finishCall i ticket,
      some (.ofResponse (s.transport.finish ticket s.surroundings).2)) := rfl

theorem pollTaken_succ (s : Session σ τ) (i : Nat) (ticket : τ) (left : Nat) :
    s.pollTaken i ticket (left + 1) = (s.setProgress i (.waiting ticket left), none) := rfl

theorem progress?_setProgress (s : Session σ τ) (i j : Nat) (p : Progress τ) :
    (s.setProgress i p).progress? j
      = if i = j then (s.progress? j).map fun _ => p else s.progress? j := by
  simp only [progress?, setProgress, List.getElem?_modify]
  by_cases h : i = j
  · simp only [h, if_true]
    cases s.calls[j]? <;> rfl
  · simp only [h, if_false, id_map']

theorem content_setProgress (s : Session σ τ) (i : Nat) (p : Progress τ) :
    (s.setProgress i p).calls.map Call.content = s.calls.map Call.content := by
  have hmap := map_modify (f := Call.content) (g := fun c : Call τ => { c with progress := p })
    (h := id) (fun _ => rfl) s.calls i
  exact hmap.trans (List.modify_id i _)

theorem pollsLeft_eq (s : Session σ τ) (i : Nat) :
    s.pollsLeft i = match s.progress? i with
      | some (.waiting _ left) => left + 1
      | _ => 0 := by
  unfold pollsLeft progress?
  cases s.calls[i]? with
  | none => rfl
  | some c =>
      obtain ⟨_, _, p⟩ := c
      cases p <;> rfl

/-- A new call is the last one, and it is not sent yet. -/
theorem progress?_newCall {s : Session σ τ} {r : Request} {o : Options} {i : Nat}
    {p : Progress τ} (h : (s.newCall r o).1.progress? i = some p) :
    s.progress? i = some p ∨ i = s.calls.length ∧ p = .unsent := by
  obtain ⟨c, hc, rfl⟩ := exists_call_of_progress? h
  rw [newCall, List.getElem?_append] at hc
  split at hc
  case isTrue => exact Or.inl (by rw [progress?, hc]; rfl)
  case isFalse hi =>
    obtain ⟨hlt, rfl⟩ := List.getElem?_eq_some_iff.mp hc
    rw [List.length_singleton] at hlt
    exact Or.inr ⟨by omega, by rw [List.getElem_singleton]⟩

theorem progress?_sendCall_self {s : Session σ τ} {i : Nat} {c : Call τ}
    (hc : s.calls[i]? = some c) :
    (s.sendCall i).progress? i
      = some (.waiting (s.send c).2 (s.transport.polls (s.send c).2)) := by
  have hkept : (s.send c).1.progress? i = some c.progress := by
    simp only [progress?, send, hc, Option.map_some]
  simp only [sendCall, hc, progress?_setProgress, if_true, hkept, Option.map_some]

theorem progress?_sendCall_ne (s : Session σ τ) {i j : Nat} (h : i ≠ j) :
    (s.sendCall i).progress? j = s.progress? j := by
  unfold sendCall
  cases s.calls[i]? with
  | none => rfl
  | some c =>
      rw [progress?_setProgress, if_neg h]
      rfl

theorem progress?_finishCall (s : Session σ τ) (i j : Nat) (ticket : τ) :
    (s.finishCall i ticket).progress? j
      = if i = j then (s.progress? j).map fun _ =>
          .finished (.ofResponse (s.transport.finish ticket s.surroundings).2)
        else s.progress? j :=
  progress?_setProgress _ i j _

/-! ## One poll -/

theorem pollCall_none {s : Session σ τ} {i : Nat} (h : s.progress? i = none) :
    s.pollCall i = (s, none) := by
  have hc : s.calls[i]? = none := Option.map_eq_none_iff.mp h
  simp only [pollCall, hc]

theorem pollCall_finished {s : Session σ τ} {i : Nat} {r : Result Json}
    (h : s.progress? i = some (.finished r)) : s.pollCall i = (s, some r) := by
  obtain ⟨c, hc, hp⟩ := exists_call_of_progress? h
  simp only [pollCall, hc, hp]

theorem pollCall_waiting {s : Session σ τ} {i left : Nat} {ticket : τ}
    (h : s.progress? i = some (.waiting ticket left)) :
    s.pollCall i = s.pollTaken i ticket left := by
  obtain ⟨c, hc, hp⟩ := exists_call_of_progress? h
  simp only [pollCall, hc, hp]

/-- Of two steps that a call is moved, the second counts. -/
theorem setProgress_setProgress (s : Session σ τ) (i : Nat) (p q : Progress τ) :
    (s.setProgress i p).setProgress i q = s.setProgress i q := by
  have h : (s.calls.modify i fun c => { c with progress := p }).modify i
        (fun c => { c with progress := q })
      = s.calls.modify i fun c => { c with progress := q } := by
    rw [List.modify_modify_eq]
    rfl
  simp only [setProgress, h]

/-- The first poll of a call is a poll of the call once it is sent. -/
theorem pollCall_unsent {s : Session σ τ} {i : Nat} (h : s.progress? i = some .unsent) :
    s.pollCall i = (s.sendCall i).pollCall i := by
  obtain ⟨c, hc, hp⟩ := exists_call_of_progress? h
  rw [pollCall_waiting (progress?_sendCall_self hc)]
  simp only [pollCall, hc, hp, sendCall]
  show (s.send c).1.pollTaken i (s.send c).2 (s.transport.polls (s.send c).2) = _
  cases s.transport.polls (s.send c).2 with
  | zero =>
      rw [pollTaken_zero, pollTaken_zero]
      exact Prod.ext (setProgress_setProgress _ i _ _).symm rfl
  | succ left =>
      rw [pollTaken_succ, pollTaken_succ]
      exact Prod.ext (setProgress_setProgress _ i _ _).symm rfl

/-- A poll keeps what sending, waiting and finishing keep. -/
theorem pollCall_induction {P : Session σ τ → Prop} (i : Nat)
    (send : ∀ s, s.progress? i = some .unsent → P s → P (s.sendCall i))
    (wait : ∀ s ticket left, s.progress? i = some (.waiting ticket (left + 1)) → P s →
      P (s.setProgress i (.waiting ticket left)))
    (finish : ∀ s ticket, s.progress? i = some (.waiting ticket 0) → P s →
      P (s.finishCall i ticket))
    (s : Session σ τ) (h : P s) : P (s.pollCall i).1 := by
  have taken : ∀ s ticket left, s.progress? i = some (.waiting ticket left) → P s →
      P (s.pollCall i).1 := by
    intro s ticket left hp hs
    rw [pollCall_waiting hp]
    cases left with
    | zero => exact finish s ticket hp hs
    | succ left => exact wait s ticket left hp hs
  cases hp : s.progress? i with
  | none => rw [pollCall_none hp]; exact h
  | some p =>
      cases p with
      | finished r => rw [pollCall_finished hp]; exact h
      | waiting ticket left => exact taken s ticket left hp h
      | unsent =>
          obtain ⟨c, hc, -⟩ := exists_call_of_progress? hp
          rw [pollCall_unsent hp]
          exact taken _ _ _ (progress?_sendCall_self hc) (send s hp h)

/-! ## What polls leave alone -/

/-- Only the surroundings and the progress of calls differ. -/
structure Steady (s s' : Session σ τ) : Prop where
  transport : s'.transport = s.transport
  defaults : s'.defaults = s.defaults
  queries : s'.queries = s.queries
  writes : s'.writes = s.writes
  handles : s'.handles = s.handles
  futures : s'.futures = s.futures
  contents : s'.calls.map Call.content = s.calls.map Call.content

theorem Steady.refl (s : Session σ τ) : Steady s s := ⟨rfl, rfl, rfl, rfl, rfl, rfl, rfl⟩

theorem Steady.trans {s s' s'' : Session σ τ} (h : Steady s s') (h' : Steady s' s'') :
    Steady s s'' where
  transport := h'.transport.trans h.transport
  defaults := h'.defaults.trans h.defaults
  queries := h'.queries.trans h.queries
  writes := h'.writes.trans h.writes
  handles := h'.handles.trans h.handles
  futures := h'.futures.trans h.futures
  contents := h'.contents.trans h.contents

theorem steady_setProgress (s : Session σ τ) (i : Nat) (p : Progress τ) :
    Steady s (s.setProgress i p) :=
  ⟨rfl, rfl, rfl, rfl, rfl, rfl, content_setProgress s i p⟩

theorem steady_surroundings (s : Session σ τ) (surroundings : σ) :
    Steady s { s with surroundings } :=
  ⟨rfl, rfl, rfl, rfl, rfl, rfl, rfl⟩

theorem steady_finishCall (s : Session σ τ) (i : Nat) (ticket : τ) :
    Steady s (s.finishCall i ticket) :=
  (steady_surroundings s _).trans (steady_setProgress _ i _)

theorem steady_sendCall (s : Session σ τ) (i : Nat) : Steady s (s.sendCall i) := by
  unfold sendCall
  cases s.calls[i]? with
  | none => exact Steady.refl s
  | some c => exact (steady_surroundings s _).trans (steady_setProgress _ i _)

theorem steady_pollCall (s : Session σ τ) (i : Nat) : Steady s (s.pollCall i).1 :=
  pollCall_induction (P := Steady s) i
    (fun s' _ h => h.trans (steady_sendCall s' i))
    (fun s' _ _ _ h => h.trans (steady_setProgress s' i _))
    (fun s' ticket _ h => h.trans (steady_finishCall s' i ticket))
    s (Steady.refl s)

theorem Steady.length_calls {s s' : Session σ τ} (h : Steady s s') :
    s'.calls.length = s.calls.length := by
  simpa using congrArg List.length h.contents

/-! ## What polls bring about -/

/-- A poll answers with what the table then holds. -/
theorem pollCall_snd (s : Session σ τ) (i : Nat) :
    (s.pollCall i).2 = (s.pollCall i).1.result? i := by
  have taken : ∀ (s : Session σ τ) ticket left,
      s.progress? i = some (.waiting ticket left) →
        (s.pollCall i).2 = (s.pollCall i).1.result? i := by
    intro s ticket left hp
    rw [pollCall_waiting hp]
    cases left with
    | zero =>
        show some _ = (s.finishCall i ticket).result? i
        rw [result?, progress?_finishCall, if_pos rfl, hp]
        rfl
    | succ left =>
        show none = (s.setProgress i (.waiting ticket left)).result? i
        rw [result?, progress?_setProgress, if_pos rfl, hp]
        rfl
  cases hp : s.progress? i with
  | none => rw [pollCall_none hp, result?, hp]; rfl
  | some p =>
      cases p with
      | finished r => rw [pollCall_finished hp, result?, hp]; rfl
      | waiting ticket left => exact taken s ticket left hp
      | unsent =>
          obtain ⟨c, hc, -⟩ := exists_call_of_progress? hp
          rw [pollCall_unsent hp]
          exact taken _ _ _ (progress?_sendCall_self hc)

/-- A finished call keeps its result. -/
theorem result?_pollCall {s : Session σ τ} {j : Nat} {r : Result Json} (i : Nat)
    (h : s.result? j = some r) : (s.pollCall i).1.result? j = some r := by
  have other : ∀ (s : Session σ τ) p, s.progress? i = some p → outcome? p = none →
      s.result? j = some r → i ≠ j := by
    intro s p hp hnone hr hij
    subst hij
    rw [result?, hp] at hr
    exact absurd (hnone.symm.trans hr) (by simp)
  refine pollCall_induction (P := fun s => s.result? j = some r) i ?_ ?_ ?_ s h
  · intro s hp hr
    rw [result?, progress?_sendCall_ne s (other s _ hp rfl hr)]
    exact hr
  · intro s ticket left hp hr
    rw [result?, progress?_setProgress, if_neg (other s _ hp rfl hr)]
    exact hr
  · intro s ticket hp hr
    rw [result?, progress?_finishCall, if_neg (other s _ hp rfl hr)]
    exact hr

/-- A call that is taken stays so, and no poll takes it further from its response. -/
theorem taken_pollCall {s : Session σ τ} {j : Nat} (i : Nat) (h : s.Taken j) :
    (s.pollCall i).1.Taken j ∧ (s.pollCall i).1.pollsLeft j ≤ s.pollsLeft j := by
  -- the bound is the number before the poll, whatever the moves of the poll make of it
  generalize hn : s.pollsLeft j = n
  refine pollCall_induction (P := fun s => s.Taken j ∧ s.pollsLeft j ≤ n) i ?_ ?_ ?_ s
    ⟨h, Nat.le_of_eq hn⟩
  · intro s hp hs
    have hij : i ≠ j := by
      rintro rfl
      obtain ⟨⟨p, hp', hne⟩, -⟩ := hs
      exact hne (Option.some.inj (hp'.symm.trans hp))
    rw [Taken, pollsLeft_eq, progress?_sendCall_ne s hij, ← pollsLeft_eq]
    exact hs
  · intro s ticket left hp hs
    by_cases hij : i = j
    · subst hij
      have hleft : left + 2 ≤ n := by simpa only [pollsLeft_eq, hp] using hs.2
      rw [Taken, pollsLeft_eq, progress?_setProgress, if_pos rfl, hp]
      exact ⟨⟨_, rfl, nofun⟩, Nat.le_of_succ_le hleft⟩
    · rw [Taken, pollsLeft_eq, progress?_setProgress, if_neg hij, ← pollsLeft_eq]
      exact hs
  · intro s ticket hp hs
    by_cases hij : i = j
    · subst hij
      rw [Taken, pollsLeft_eq, progress?_finishCall, if_pos rfl, hp]
      exact ⟨⟨_, rfl, nofun⟩, Nat.zero_le n⟩
    · rw [Taken, pollsLeft_eq, progress?_finishCall, if_neg hij, ← pollsLeft_eq]
      exact hs

/-- The first poll of a call has it taken. -/
theorem taken_of_poll {s : Session σ τ} {i : Nat} (h : i < s.calls.length) :
    (s.pollCall i).1.Taken i := by
  obtain ⟨c, hc⟩ : ∃ c, s.calls[i]? = some c := ⟨_, List.getElem?_eq_getElem h⟩
  have hp : s.progress? i = some c.progress := by rw [progress?, hc]; rfl
  by_cases hu : c.progress = .unsent
  · rw [hu] at hp
    rw [pollCall_unsent hp]
    exact (taken_pollCall i ⟨_, progress?_sendCall_self hc, nofun⟩).1
  · exact (taken_pollCall i ⟨_, hp, hu⟩).1

/-- A poll that finds a call unfinished brings it closer to its response. -/
theorem pollsLeft_lt {s : Session σ τ} {i : Nat} (h : s.Taken i)
    (hnone : (s.pollCall i).2 = none) : (s.pollCall i).1.pollsLeft i < s.pollsLeft i := by
  obtain ⟨p, hp, hne⟩ := h
  cases p with
  | unsent => exact absurd rfl hne
  | finished r => rw [pollCall_finished hp] at hnone; exact absurd hnone nofun
  | waiting ticket left =>
      rw [pollCall_waiting hp] at hnone ⊢
      cases left with
      | zero => exact absurd hnone nofun
      | succ left =>
          show (s.setProgress i (.waiting ticket left)).pollsLeft i < _
          rw [pollsLeft_eq, pollsLeft_eq, progress?_setProgress, if_pos rfl, hp]
          exact Nat.lt_succ_self _

/-! ## Many polls -/

/-- Polls the calls one after the other. -/
def pollAll (s : Session σ τ) (calls : List Nat) : Session σ τ :=
  calls.foldl (fun s i => (s.pollCall i).1) s

/-- Many polls keep what one poll keeps. -/
theorem pollAll_induction {P : Session σ τ → Prop} {calls : List Nat}
    (poll : ∀ s, ∀ i ∈ calls, P s → P (s.pollCall i).1) {s : Session σ τ} (h : P s) :
    P (s.pollAll calls) := by
  induction calls generalizing s with
  | nil => exact h
  | cons i rest ih =>
      exact ih (fun s j hj => poll s j (List.mem_cons_of_mem _ hj))
        (poll s i List.mem_cons_self h)

theorem pollAll_append (s : Session σ τ) (is js : List Nat) :
    s.pollAll (is ++ js) = (s.pollAll is).pollAll js :=
  List.foldl_append

theorem steady_pollAll (s : Session σ τ) (calls : List Nat) : Steady s (s.pollAll calls) :=
  pollAll_induction (P := Steady s) (fun s' i _ h => h.trans (steady_pollCall s' i))
    (Steady.refl s)

theorem result?_pollAll {s : Session σ τ} {j : Nat} {r : Result Json} (calls : List Nat)
    (h : s.result? j = some r) : (s.pollAll calls).result? j = some r :=
  pollAll_induction (P := fun s => s.result? j = some r) (fun _ i _ => result?_pollCall i) h

/-! ## Awaiting -/

section

variable {s : Session σ τ} {i : Nat}

theorem pollUpTo_some {r : Result Json} (n : Nat) (h : (s.pollCall i).2 = some r) :
    s.pollUpTo i (n + 1) = s.pollCall i := by
  simp only [pollUpTo]
  generalize s.pollCall i = p at h ⊢
  obtain ⟨s', found⟩ := p
  cases h
  rfl

theorem pollUpTo_none (n : Nat) (h : (s.pollCall i).2 = none) :
    s.pollUpTo i (n + 1) = (s.pollCall i).1.pollUpTo i n := by
  simp only [pollUpTo]
  generalize s.pollCall i = p at h ⊢
  obtain ⟨s', found⟩ := p
  cases h
  rfl

theorem awaitCall_some {r : Result Json} (h : (s.pollCall i).2 = some r) :
    s.awaitCall i = s.pollCall i := by
  simp only [awaitCall]
  generalize s.pollCall i = p at h ⊢
  obtain ⟨s', found⟩ := p
  cases h
  rfl

theorem awaitCall_none (h : (s.pollCall i).2 = none) :
    s.awaitCall i = (s.pollCall i).1.pollUpTo i ((s.pollCall i).1.pollsLeft i) := by
  simp only [awaitCall]
  generalize s.pollCall i = p at h ⊢
  obtain ⟨s', found⟩ := p
  cases h
  rfl

end

theorem exists_pollAll_pollUpTo (i : Nat) :
    ∀ (n : Nat) (s : Session σ τ), ∃ k, (s.pollUpTo i n).1 = s.pollAll (List.replicate k i)
  | 0, _ => ⟨0, rfl⟩
  | n + 1, s => by
      cases hp : (s.pollCall i).2 with
      | some r => exact ⟨1, congrArg Prod.fst (pollUpTo_some n hp)⟩
      | none =>
          obtain ⟨k, hk⟩ := exists_pollAll_pollUpTo i n (s.pollCall i).1
          rw [pollUpTo_none n hp]
          exact ⟨k + 1, hk⟩

theorem pollUpTo_snd {i : Nat} {r : Result Json} :
    ∀ {n : Nat} {s : Session σ τ}, (s.pollUpTo i n).2 = some r →
      (s.pollUpTo i n).1.result? i = some r
  | 0, _, h => absurd h nofun
  | n + 1, s, h => by
      cases hp : (s.pollCall i).2 with
      | some r' =>
          rw [pollUpTo_some n hp] at h ⊢
          exact (pollCall_snd s i).symm.trans h
      | none =>
          rw [pollUpTo_none n hp] at h ⊢
          exact pollUpTo_snd h

/-- As many polls as a call needs finish it. -/
theorem pollUpTo_isSome {i : Nat} :
    ∀ {n : Nat} {s : Session σ τ}, s.Taken i → s.result? i = none → s.pollsLeft i ≤ n →
      (s.pollUpTo i n).2.isSome
  | 0, s, ⟨p, hp, hne⟩, hr, hn => by
      rw [pollsLeft_eq, hp] at hn
      rw [result?, hp] at hr
      cases p with
      | unsent => exact absurd rfl hne
      | finished r => exact absurd hr nofun
      | waiting ticket left => exact absurd hn (Nat.not_succ_le_zero left)
  | n + 1, s, ht, _, hn => by
      cases hp : (s.pollCall i).2 with
      | some r =>
          rw [pollUpTo_some n hp, hp]
          rfl
      | none =>
          have hless := pollsLeft_lt ht hp
          rw [pollUpTo_none n hp]
          refine pollUpTo_isSome (taken_pollCall i ht).1 ?_ (by omega)
          exact (pollCall_snd s i).symm.trans hp

/-- An await polls the one call, at least once. -/
theorem exists_pollAll_awaitCall (s : Session σ τ) (i : Nat) :
    ∃ k, (s.awaitCall i).1 = s.pollAll (i :: List.replicate k i) := by
  cases hp : (s.pollCall i).2 with
  | some r => exact ⟨0, congrArg Prod.fst (awaitCall_some hp)⟩
  | none =>
      rw [awaitCall_none hp]
      exact exists_pollAll_pollUpTo i _ (s.pollCall i).1

/-- An await polls until the response is there. -/
theorem awaitCall_eq_pollUpTo (s : Session σ τ) (i : Nat) :
    s.awaitCall i = s.pollUpTo i ((s.pollCall i).1.pollsLeft i + 1) := by
  cases h : (s.pollCall i).2 with
  | some r => rw [awaitCall_some h, pollUpTo_some _ h]
  | none => rw [awaitCall_none h, pollUpTo_none _ h]

theorem awaitCall_snd {s : Session σ τ} {i : Nat} {r : Result Json}
    (h : (s.awaitCall i).2 = some r) : (s.awaitCall i).1.result? i = some r := by
  rw [awaitCall_eq_pollUpTo] at h ⊢
  exact pollUpTo_snd h

/-- An await of a call that there is gives a result. -/
theorem awaitCall_isSome {s : Session σ τ} {i : Nat} (h : i < s.calls.length) :
    (s.awaitCall i).2.isSome := by
  cases hp : (s.pollCall i).2 with
  | some r =>
      rw [awaitCall_some hp, hp]
      rfl
  | none =>
      rw [awaitCall_none hp]
      refine pollUpTo_isSome (taken_of_poll h) ?_ (Nat.le_refl _)
      exact (pollCall_snd s i).symm.trans hp

/-- While nothing else is polled, a call that waits finishes with what its ticket is
turned in for now. -/
theorem pollUpTo_waiting {i : Nat} {ticket : τ} :
    ∀ {left n : Nat} {s : Session σ τ}, s.progress? i = some (.waiting ticket left) → left < n →
      let finished := s.transport.finish ticket s.surroundings
      (s.pollUpTo i n).1.surroundings = finished.1 ∧
        (s.pollUpTo i n).2 = some (.ofResponse finished.2)
  | _, 0, _, _, h => absurd h (Nat.not_lt_zero _)
  | 0, n + 1, s, hp, _ => by
      have hpoll := (pollCall_waiting hp).trans (pollTaken_zero s i ticket)
      rw [pollUpTo_some n (congrArg Prod.snd hpoll), hpoll]
      exact ⟨rfl, rfl⟩
  | left + 1, n + 1, s, hp, h => by
      have hpoll := (pollCall_waiting hp).trans (pollTaken_succ s i ticket left)
      have hwaiting : (s.setProgress i (.waiting ticket left)).progress? i
          = some (.waiting ticket left) := by
        rw [progress?_setProgress, if_pos rfl, hp]
        rfl
      rw [pollUpTo_none n (congrArg Prod.snd hpoll), hpoll]
      exact pollUpTo_waiting hwaiting (Nat.lt_of_succ_lt_succ h)

/-- Of the polls that a call still needs, one poll takes one at most. -/
theorem le_pollsLeft_pollCall {s : Session σ τ} {i left : Nat} {ticket : τ}
    (hp : s.progress? i = some (.waiting ticket left)) :
    left ≤ (s.pollCall i).1.pollsLeft i := by
  rw [pollCall_waiting hp]
  cases left with
  | zero => exact Nat.zero_le _
  | succ left =>
      rw [pollTaken_succ, pollsLeft_eq, progress?_setProgress, if_pos rfl, hp]
      exact Nat.le_refl _

/-- An await of a call that is not sent yet is a call of the transport as it is shared. -/
theorem awaitCall_unsent {s : Session σ τ} {i : Nat} {c : Call τ} (hc : s.calls[i]? = some c)
    (hp : c.progress = .unsent) :
    let done := s.transport.shared.call c.request c.options s.surroundings
    (s.awaitCall i).1.surroundings = done.1 ∧
      (s.awaitCall i).2 = some (.ofResponse done.2) := by
  have hunsent : s.progress? i = some .unsent := by
    rw [progress?, hc, Option.map_some, hp]
  have hsame : s.awaitCall i = (s.sendCall i).awaitCall i := by
    simp only [awaitCall, pollCall_unsent hunsent]
  have hsent : (s.sendCall i).surroundings = (s.send c).1.surroundings := by
    simp only [sendCall, hc]
    rfl
  have hwaiting := progress?_sendCall_self hc
  have hfinished := pollUpTo_waiting hwaiting
    (Nat.lt_succ_of_le (le_pollsLeft_pollCall hwaiting))
  rw [(steady_sendCall s i).transport, hsent] at hfinished
  rw [hsame, awaitCall_eq_pollUpTo]
  exact hfinished

/-! ## Joining -/

/-- The calls of the futures that have no result yet. -/
def pendingCalls : List (Future × Option (Result Json)) → List Nat
  | [] => []
  | (_, some _) :: rest => pendingCalls rest
  | (f, none) :: rest => f.call :: pendingCalls rest

theorem pollRound_fst : ∀ (fs : List (Future × Option (Result Json))) (s : Session σ τ),
    (s.pollRound fs).1 = s.pollAll (pendingCalls fs)
  | [], _ => rfl
  | (_, some _) :: rest, s => pollRound_fst rest s
  | (f, none) :: rest, s => pollRound_fst rest (s.pollCall f.call).1

theorem pollRound_futures : ∀ (fs : List (Future × Option (Result Json))) (s : Session σ τ),
    (s.pollRound fs).2.map Prod.fst = fs.map Prod.fst
  | [], _ => rfl
  | (f, some _) :: rest, s => congrArg (f :: ·) (pollRound_futures rest s)
  | (f, none) :: rest, s => congrArg (f :: ·) (pollRound_futures rest (s.pollCall f.call).1)

/-- What a round makes true of each future: `P` holds of all before it, and the
poll of a future, or the result that it has, turns `P` into `Q`. -/
theorem pollRound_forall {P Q : Session σ τ → Future × Option (Result Json) → Prop}
    (before : ∀ s i p, P s p → P (s.pollCall i).1 p)
    (after : ∀ s i p, Q s p → Q (s.pollCall i).1 p)
    (found : ∀ s f r, P s (f, some r) → Q s (f, some r))
    (polled : ∀ s f, P s (f, none) → Q (s.pollCall f.call).1 (f, (s.pollCall f.call).2)) :
    ∀ (fs : List (Future × Option (Result Json))) (s : Session σ τ), (∀ p ∈ fs, P s p) →
      ∀ p ∈ (s.pollRound fs).2, Q (s.pollRound fs).1 p := by
  have later : ∀ fs s p, Q s p → Q (Session.pollRound (σ := σ) (τ := τ) s fs).1 p := by
    intro fs s p h
    rw [pollRound_fst]
    exact pollAll_induction (P := fun s => Q s p) (fun s i _ => after s i p) h
  intro fs
  induction fs with
  | nil => intro s _ p hp; exact absurd hp List.not_mem_nil
  | cons e rest ih =>
      obtain ⟨f, r⟩ := e
      intro s h p hp
      have hhead := h (f, r) List.mem_cons_self
      have hrest : ∀ p ∈ rest, P s p := fun p hp => h p (List.mem_cons_of_mem _ hp)
      cases r with
      | some r =>
          rcases List.mem_cons.mp hp with rfl | hp
          · exact later rest s _ (found s f r hhead)
          · exact ih s hrest p hp
      | none =>
          rcases List.mem_cons.mp hp with rfl | hp
          · exact later rest _ _ (polled s f hhead)
          · exact ih _ (fun p hp => before s f.call p (hrest p hp)) p hp

/-- What a future has is the result of its call. -/
def Found (s : Session σ τ) (p : Future × Option (Result Json)) : Prop :=
  ∀ r, p.2 = some r → s.result? p.1.call = some r

/-- A future without a result has fewer than `n` polls to go. -/
def Due (n : Nat) (s : Session σ τ) (p : Future × Option (Result Json)) : Prop :=
  p.2 = none → s.Taken p.1.call ∧ s.pollsLeft p.1.call < n

theorem found_pollCall (s : Session σ τ) (i : Nat) (p : Future × Option (Result Json))
    (h : s.Found p) : (s.pollCall i).1.Found p :=
  fun r hr => result?_pollCall i (h r hr)

theorem due_pollCall (n : Nat) (s : Session σ τ) (i : Nat) (p : Future × Option (Result Json))
    (h : s.Due n p) : (s.pollCall i).1.Due n p := by
  intro hnone
  obtain ⟨ht, hlt⟩ := h hnone
  obtain ⟨ht', hle⟩ := taken_pollCall i ht
  exact ⟨ht', Nat.lt_of_le_of_lt hle hlt⟩

theorem pollRound_found {fs : List (Future × Option (Result Json))} {s : Session σ τ}
    (h : ∀ p ∈ fs, s.Found p) : ∀ p ∈ (s.pollRound fs).2, (s.pollRound fs).1.Found p :=
  pollRound_forall found_pollCall found_pollCall (fun _ _ _ h => h)
    (fun s f _ _ hr => (pollCall_snd s f.call).symm.trans hr) fs s h

theorem pollRound_due {n : Nat} {fs : List (Future × Option (Result Json))} {s : Session σ τ}
    (h : ∀ p ∈ fs, s.Due (n + 1) p) : ∀ p ∈ (s.pollRound fs).2, (s.pollRound fs).1.Due n p := by
  refine pollRound_forall (due_pollCall (n + 1)) (due_pollCall n) (fun _ _ _ _ hn => nomatch hn)
    ?_ fs s h
  intro s f hf hnone
  obtain ⟨ht, hlt⟩ := hf rfl
  have hless : (s.pollCall f.call).1.pollsLeft f.call < s.pollsLeft f.call :=
    pollsLeft_lt ht hnone
  exact ⟨(taken_pollCall f.call ht).1, Nat.lt_of_lt_of_le hless (Nat.le_of_lt_succ hlt)⟩

/-- A round has every call taken that it polls. -/
theorem pollRound_taken {fs : List (Future × Option (Result Json))} {s : Session σ τ}
    (h : ∀ p ∈ fs, p.1.call < s.calls.length) :
    ∀ p ∈ (s.pollRound fs).2, p.2 = none → (s.pollRound fs).1.Taken p.1.call := by
  refine pollRound_forall (P := fun s p => p.1.call < s.calls.length)
    (Q := fun s p => p.2 = none → s.Taken p.1.call) ?_ ?_ ?_ ?_ fs s h
  · intro s i p hp
    rwa [(steady_pollCall s i).length_calls]
  · intro s i p hp hnone
    exact (taken_pollCall i (hp hnone)).1
  · intro _ _ _ _ hnone
    exact nomatch hnone
  · intro s f hf _
    exact taken_of_poll hf

theorem pendingCalls_subset : ∀ (fs : List (Future × Option (Result Json))),
    ∀ i ∈ pendingCalls fs, i ∈ fs.map fun p => p.1.call
  | [], _, h => absurd h List.not_mem_nil
  | (_, some _) :: rest, i, h => List.mem_cons_of_mem _ (pendingCalls_subset rest i h)
  | (_, none) :: rest, i, h => by
      rcases List.mem_cons.mp h with rfl | h
      · exact List.mem_cons_self
      · exact List.mem_cons_of_mem _ (pendingCalls_subset rest i h)

theorem pollRounds_succ (s : Session σ τ) (fs : List (Future × Option (Result Json))) (n : Nat) :
    s.pollRounds fs (n + 1) =
      if (s.pollRound fs).2.all (·.2.isSome) then s.pollRound fs
      else (s.pollRound fs).1.pollRounds (s.pollRound fs).2 n := rfl

theorem pollRounds_futures : ∀ (n : Nat) (fs : List (Future × Option (Result Json)))
    (s : Session σ τ), (s.pollRounds fs n).2.map Prod.fst = fs.map Prod.fst
  | 0, _, _ => rfl
  | n + 1, fs, s => by
      rw [pollRounds_succ]
      split
      · exact pollRound_futures fs s
      · exact (pollRounds_futures n _ _).trans (pollRound_futures fs s)

/-- Rounds poll the calls of their futures and no others. -/
theorem exists_pollAll_pollRounds : ∀ (n : Nat) (fs : List (Future × Option (Result Json)))
    (s : Session σ τ), ∃ calls, (∀ i ∈ calls, i ∈ fs.map fun p => p.1.call) ∧
      (s.pollRounds fs n).1 = s.pollAll calls
  | 0, _, _ => ⟨[], fun _ h => absurd h List.not_mem_nil, rfl⟩
  | n + 1, fs, s => by
      rw [pollRounds_succ]
      split
      · exact ⟨pendingCalls fs, pendingCalls_subset fs, pollRound_fst fs s⟩
      · obtain ⟨calls, hsub, hcalls⟩ :=
          exists_pollAll_pollRounds n (s.pollRound fs).2 (s.pollRound fs).1
        have hsame : (s.pollRound fs).2.map (fun p => p.1.call) = fs.map fun p => p.1.call := by
          have h := congrArg (List.map Future.call) (pollRound_futures fs s)
          rwa [List.map_map, List.map_map] at h
        refine ⟨pendingCalls fs ++ calls, ?_, ?_⟩
        · intro i hi
          rcases List.mem_append.mp hi with hi | hi
          · exact pendingCalls_subset fs i hi
          · exact hsame ▸ hsub i hi
        · rw [hcalls, pollRound_fst, pollAll_append]

theorem pollRounds_found : ∀ {n : Nat} {fs : List (Future × Option (Result Json))}
    {s : Session σ τ}, (∀ p ∈ fs, s.Found p) →
      ∀ p ∈ (s.pollRounds fs n).2, (s.pollRounds fs n).1.Found p
  | 0, _, _, h => h
  | n + 1, fs, s, h => by
      rw [pollRounds_succ]
      split
      · exact pollRound_found h
      · exact pollRounds_found (pollRound_found h)

/-- When no future has more than `n - 1` polls to go, `n` rounds find all results. -/
theorem pollRounds_isSome : ∀ {n : Nat} {fs : List (Future × Option (Result Json))}
    {s : Session σ τ}, (∀ p ∈ fs, s.Due n p) → ∀ p ∈ (s.pollRounds fs n).2, p.2.isSome
  | 0, _, _, h, p, hp => by
      cases hr : p.2 with
      | some r => rfl
      | none => exact absurd (h p hp hr).2 (Nat.not_lt_zero _)
  | n + 1, fs, s, h, p, hp => by
      rw [pollRounds_succ] at hp
      split at hp
      case isTrue hall => exact List.all_eq_true.mp hall p hp
      case isFalse => exact pollRounds_isSome (pollRound_due h) p hp

theorem roundsLeft_pos (s : Session σ τ) :
    ∀ fs : List (Future × Option (Result Json)), 0 < s.roundsLeft fs
  | [] => Nat.one_pos
  | p :: rest => by
      have hrest := roundsLeft_pos s rest
      show 0 < s.pollsLeft p.1.call + s.roundsLeft rest
      omega

/-- The rounds of a join are enough for each of its futures. -/
theorem pollsLeft_lt_roundsLeft {s : Session σ τ} {p : Future × Option (Result Json)} :
    ∀ {fs : List (Future × Option (Result Json))}, p ∈ fs →
      s.pollsLeft p.1.call < s.roundsLeft fs
  | q :: rest, h => by
      show _ < s.pollsLeft q.1.call + s.roundsLeft rest
      rcases List.mem_cons.mp h with rfl | h
      · have hpos := roundsLeft_pos s rest
        omega
      · have hrest := pollsLeft_lt_roundsLeft (s := s) h
        omega

/-- A list of pairs is its first components with what they are paired with. -/
theorem filterMap_view {fs : List (Future × Option (Result Json))} {s : Session σ τ}
    (hsome : ∀ p ∈ fs, p.2.isSome) (hfound : ∀ p ∈ fs, s.Found p) :
    (fs.filterMap fun p => p.2.map p.1.view).map some
      = (fs.map Prod.fst).map fun f => (s.result? f.call).map f.view := by
  induction fs with
  | nil => rfl
  | cons p rest ih =>
      obtain ⟨f, r⟩ := p
      cases r with
      | none => exact absurd (hsome _ List.mem_cons_self) nofun
      | some r =>
          have hr : s.result? f.call = some r := hfound _ List.mem_cons_self r rfl
          have hrest := ih (fun p hp => hsome p (List.mem_cons_of_mem _ hp))
            (fun p hp => hfound p (List.mem_cons_of_mem _ hp))
          simp only [List.filterMap_cons, Option.map_some, List.map_cons, hr, hrest]

theorem joinCalls_eq (s : Session σ τ) (fs : List Future) :
    s.joinCalls fs =
      let first := s.pollRound (fs.map fun f => (f, none))
      let last := first.1.pollRounds first.2 (first.1.roundsLeft first.2)
      (last.1, last.2.filterMap fun p => p.2.map p.1.view) := rfl

theorem pendingCalls_map_none (fs : List Future) :
    pendingCalls (fs.map fun f => (f, none)) = fs.map Future.call := by
  induction fs with
  | nil => rfl
  | cons f rest ih => exact congrArg (f.call :: ·) ih

/-- A join polls the calls of its futures in their order, and then those calls only. -/
theorem exists_pollAll_joinCalls (s : Session σ τ) (fs : List Future) :
    ∃ calls, (∀ i ∈ calls, i ∈ fs.map Future.call) ∧
      (s.joinCalls fs).1 = s.pollAll (fs.map Future.call ++ calls) := by
  rw [joinCalls_eq]
  have hfirst := pollRound_fst (fs.map fun f => (f, none)) s
  have hfutures := pollRound_futures (fs.map fun f => (f, none)) s
  rw [pendingCalls_map_none] at hfirst
  obtain ⟨calls, hsub, hcalls⟩ := exists_pollAll_pollRounds
    ((s.pollRound (fs.map fun f => (f, none))).1.roundsLeft
      (s.pollRound (fs.map fun f => (f, none))).2)
    (s.pollRound (fs.map fun f => (f, none))).2 (s.pollRound (fs.map fun f => (f, none))).1
  refine ⟨calls, ?_, ?_⟩
  · intro i hi
    have h := congrArg (List.map Future.call) hfutures
    rw [List.map_map, List.map_map, List.map_map] at h
    exact h ▸ hsub i hi
  · rw [hcalls, hfirst, pollAll_append]

/-- A join gives for each of its futures the view of the result of its call. -/
theorem joinCalls_snd {s : Session σ τ} {fs : List Future}
    (h : ∀ f ∈ fs, f.call < s.calls.length) :
    (s.joinCalls fs).2.map some
      = fs.map fun f => ((s.joinCalls fs).1.result? f.call).map f.view := by
  rw [joinCalls_eq]
  dsimp only
  generalize hfirst : s.pollRound (fs.map fun f => (f, none)) = first
  have hthere : ∀ p ∈ fs.map (fun f => (f, (none : Option (Result Json)))),
      p.1.call < s.calls.length := by
    intro p hp
    obtain ⟨f, hf, rfl⟩ := List.mem_map.mp hp
    exact h f hf
  have hfound : ∀ p ∈ first.2, first.1.Found p := by
    subst hfirst
    apply pollRound_found
    intro p hp r hr
    obtain ⟨f, -, rfl⟩ := List.mem_map.mp hp
    cases hr
  -- the first round has all calls taken, and only a taken call has a number of polls to go
  have hdue : ∀ p ∈ first.2, first.1.Due (first.1.roundsLeft first.2) p := by
    subst hfirst
    intro p hp hnone
    exact ⟨pollRound_taken hthere p hp hnone, pollsLeft_lt_roundsLeft hp⟩
  have hfutures :
      (first.1.pollRounds first.2 (first.1.roundsLeft first.2)).2.map Prod.fst = fs := by
    rw [pollRounds_futures, ← hfirst, pollRound_futures, List.map_map]
    exact List.map_id fs
  have hview := filterMap_view (pollRounds_isSome hdue) (pollRounds_found hfound)
  rw [hfutures] at hview
  exact hview

end Session

end TableGateway
