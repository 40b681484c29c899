/-
Projections: a transport of which only a part is looked at.

A transport may do more than carry calls: it may keep a record of them, or tell
others of them.  It shows the transport inside it when its tickets and its state
have parts on which every operation does what the other one does, for options of
which a veil may hide some (`Transport.Shows`).  It may do so for as long as its
state is good and then no more.  Sessions over the two go alike while it does: the
same outcomes, and the same state but for what is not looked at (`step_veiled`,
`run_veiled`, `trace_veiled`).  Without a veil and in all states the transport
projects onto the other one (`Transport.Projects`, `run_through`).
-/
import TableGateway.Proofs.Steps
import TableGateway.Proofs.Veil

namespace TableGateway

variable {σ σ' τ τ' : Type}

/-- The operations of `t'` on the parts that `f` and `g` look at are those of `t` on
what the veil shows of the options, up to a state that is not good. -/
structure Transport.Shows (v : Veil) (t' : Transport σ' τ') (t : Transport σ τ)
    (f : σ' → σ) (g : τ' → τ) (good : σ' → Prop) : Prop where
  dispatch : ∀ r o s, good (t'.dispatch r o s).1 →
    t.dispatch r (v.hide o) (f s) = Prod.map f g (t'.dispatch r o s)
  polls : ∀ ticket, t.polls (g ticket) = t'.polls ticket
  finish : ∀ ticket s, good (t'.finish ticket s).1 →
    t.finish (g ticket) (f s) = Prod.map f id (t'.finish ticket s)
  good_of_dispatch : ∀ r o s, good (t'.dispatch r o s).1 → good s
  good_of_finish : ∀ ticket s, good (t'.finish ticket s).1 → good s

/-- The operations of `t'` on the parts that `f` and `g` look at are those of `t`. -/
structure Transport.Projects (t' : Transport σ' τ') (t : Transport σ τ)
    (f : σ' → σ) (g : τ' → τ) : Prop where
  dispatch : ∀ r o s, t.dispatch r o (f s) = Prod.map f g (t'.dispatch r o s)
  polls : ∀ ticket, t.polls (g ticket) = t'.polls ticket
  finish : ∀ ticket s, t.finish (g ticket) (f s) = Prod.map f id (t'.finish ticket s)

theorem Transport.Projects.shows {t' : Transport σ' τ'} {t : Transport σ τ} {f : σ' → σ}
    {g : τ' → τ} (h : t'.Projects t f g) : t'.Shows .clear t f g fun _ => True where
  dispatch r o s _ := h.dispatch r o s
  polls := h.polls
  finish ticket s _ := h.finish ticket s
  good_of_dispatch _ _ _ _ := trivial
  good_of_finish _ _ _ := trivial

def Progress.map (g : τ' → τ) : Progress τ' → Progress τ
  | .unsent => .unsent
  | .waiting ticket left => .waiting (g ticket) left
  | .finished r => .finished r

def Call.map (g : τ' → τ) (c : Call τ') : Call τ :=
  { request := c.request, options := c.options, progress := c.progress.map g }

/-- A call with its options seen through a veil. -/
def Call.veiled (v : Veil) (g : τ' → τ) (c : Call τ') : Call τ :=
  { request := c.request, options := v.hide c.options, progress := c.progress.map g }

namespace Session

/-- The session over `t` that a session shows when it is looked at through `f`, `g`
and a veil. -/
def veiled (v : Veil) (t : Transport σ τ) (f : σ' → σ) (g : τ' → τ) (s : Session σ' τ') :
    Session σ τ where
  transport := t
  surroundings := f s.surroundings
  defaults := v.hide s.defaults
  queries := s.queries.mapValues fun _ q => v.query q
  writes := s.writes.map v.write
  handles := s.handles
  calls := s.calls.map (Call.veiled v g)
  futures := s.futures

section

variable {v : Veil} {t : Transport σ τ} {f : σ' → σ} {g : τ' → τ} {good : σ' → Prop}

theorem queries_veiled (s : Session σ' τ') (name : String) :
    (s.veiled v t f g).queries.get? name = (s.queries.get? name).map v.query :=
  SortedMap.get?_mapValues _ s.queries name

theorem handles_veiled (s : Session σ' τ') : (s.veiled v t f g).handles = s.handles := rfl

theorem futures_veiled (s : Session σ' τ') : (s.veiled v t f g).futures = s.futures := rfl

theorem calls_veiled (s : Session σ' τ') (i : Nat) :
    (s.veiled v t f g).calls[i]? = s.calls[i]?.map (Call.veiled v g) :=
  List.getElem?_map

theorem progress?_veiled {s : Session σ' τ'} {i : Nat} {p : Progress τ'}
    (h : s.progress? i = some p) : (s.veiled v t f g).progress? i = some (p.map g) := by
  obtain ⟨c, hc, rfl⟩ := exists_call_of_progress? h
  rw [progress?, calls_veiled, hc]
  rfl

/-! ## Good states -/

/-- A state that is not good stays so. -/
theorem not_good_pollCall {t' : Transport σ' τ'} (h : t'.Shows v t f g good) (i : Nat)
    (s : Session σ' τ') (hs : s.transport = t' ∧ ¬good s.surroundings) :
    (s.pollCall i).1.transport = t' ∧ ¬good (s.pollCall i).1.surroundings := by
  refine pollCall_induction (P := fun s => s.transport = t' ∧ ¬good s.surroundings) i ?_ ?_ ?_ s hs
  · rintro s hp ⟨ht, hbad⟩
    subst ht
    refine ⟨(steady_sendCall s i).transport, ?_⟩
    obtain ⟨c, hc, -⟩ := exists_call_of_progress? hp
    simp only [sendCall, hc]
    exact fun hgood => hbad (h.good_of_dispatch c.request c.options _ hgood)
  · intro s ticket left _ hbad
    exact hbad
  · rintro s ticket - ⟨ht, hbad⟩
    subst ht
    exact ⟨rfl, fun hgood => hbad (h.good_of_finish ticket _ hgood)⟩

theorem keeps_not_good {t' : Transport σ' τ'} (h : t'.Shows v t f g good) (op : Operation) :
    Keeps op fun s : Session σ' τ' => s.transport = t' ∧ ¬good s.surroundings where
  query _ _ _ _ hs := hs
  describe _ _ _ hs := hs
  handle _ _ _ hs := hs
  refine _ _ _ _ _ hs := hs
  call _ _ _ hs := hs
  resolve _ _ _ _ _ hs := hs
  keep _ _ _ hs := hs
  take _ _ hs := hs
  poll s i hs := not_good_pollCall h i s hs

theorem good_of_pollAll (calls : List Nat) {s : Session σ' τ'}
    (h : s.transport.Shows v t f g good) (hgood : good (s.pollAll calls).surroundings) :
    good s.surroundings := by
  refine Classical.byContradiction fun hs => ?_
  exact (pollAll_induction (fun s i _ hs => not_good_pollCall h i s hs) ⟨rfl, hs⟩).2 hgood

theorem good_of_run (ops : List Operation) {s : Session σ' τ'}
    (h : s.transport.Shows v t f g good) (hgood : good (s.run ops).surroundings) : good s.surroundings := by
  refine Classical.byContradiction fun hs => ?_
  exact (run_induction (fun op _ => keeps_not_good h op) ⟨rfl, hs⟩).2 hgood

/-! ## Polls -/

theorem setProgress_veiled (s : Session σ' τ') (i : Nat) (p : Progress τ') :
    (s.veiled v t f g).setProgress i (p.map g) = (s.setProgress i p).veiled v t f g := by
  have hmap := map_modify (f := Call.veiled v g) (g := fun c => { c with progress := p })
    (h := fun c => { c with progress := p.map g }) (fun _ => rfl) s.calls i
  simp only [setProgress, veiled, hmap]

theorem send_veiled {s : Session σ' τ'} (h : s.transport.Shows v t f g good) {c : Call τ'}
    (hgood : good (s.send c).1.surroundings) :
    (s.veiled v t f g).send (c.veiled v g) = Prod.map (veiled v t f g) g (s.send c) := by
  have hd := h.dispatch c.request c.options s.surroundings hgood
  show ({ s.veiled v t f g with
      surroundings := (t.dispatch c.request (v.hide c.options) (f s.surroundings)).1 },
    (t.dispatch c.request (v.hide c.options) (f s.surroundings)).2) = _
  rw [hd]
  rfl

theorem finishCall_veiled {s : Session σ' τ'} (h : s.transport.Shows v t f g good) (i : Nat)
    {ticket : τ'} (hgood : good (s.finishCall i ticket).surroundings) :
    (s.veiled v t f g).finishCall i (g ticket) = (s.finishCall i ticket).veiled v t f g := by
  have hf := h.finish ticket s.surroundings hgood
  show setProgress { s.veiled v t f g with
      surroundings := (t.finish (g ticket) (f s.surroundings)).1 } i
    (.finished (.ofResponse (t.finish (g ticket) (f s.surroundings)).2)) = _
  rw [hf]
  exact setProgress_veiled
    { s with surroundings := (s.transport.finish ticket s.surroundings).1 } i
    (.finished (.ofResponse (s.transport.finish ticket s.surroundings).2))

theorem pollTaken_veiled {s : Session σ' τ'} (h : s.transport.Shows v t f g good) (i : Nat)
    (ticket : τ') :
    ∀ left, good (s.pollTaken i ticket left).1.surroundings →
      (s.veiled v t f g).pollTaken i (g ticket) left
        = Prod.map (veiled v t f g) id (s.pollTaken i ticket left)
  | 0, hgood => by
      have hresponse : (t.finish (g ticket) (f s.surroundings)).2
          = (s.transport.finish ticket s.surroundings).2 :=
        congrArg Prod.snd (h.finish ticket s.surroundings hgood)
      rw [pollTaken_zero, pollTaken_zero, finishCall_veiled h i hgood]
      exact Prod.ext rfl (congrArg (fun r => some (Result.ofResponse r)) hresponse)
  | left + 1, _ => Prod.ext (setProgress_veiled s i (.waiting ticket left)) rfl

theorem sendCall_veiled {s : Session σ' τ'} (h : s.transport.Shows v t f g good) {i : Nat}
    (hgood : good (s.sendCall i).surroundings) :
    (s.veiled v t f g).sendCall i = (s.sendCall i).veiled v t f g := by
  unfold sendCall at hgood ⊢
  rw [calls_veiled]
  cases hc : s.calls[i]? with
  | none => rfl
  | some c =>
      rw [hc] at hgood
      show ((s.veiled v t f g).send (c.veiled v g)).1.setProgress i
        (.waiting ((s.veiled v t f g).send (c.veiled v g)).2
          (t.polls ((s.veiled v t f g).send (c.veiled v g)).2)) = _
      rw [send_veiled h hgood]
      show _ = ((s.send c).1.setProgress i _).veiled v t f g
      rw [← setProgress_veiled, Progress.map, ← h.polls]
      rfl

theorem pollCall_veiled {s : Session σ' τ'} (h : s.transport.Shows v t f g good) {i : Nat}
    (hgood : good (s.pollCall i).1.surroundings) :
    (s.veiled v t f g).pollCall i = Prod.map (veiled v t f g) id (s.pollCall i) := by
  have waiting : ∀ {s : Session σ' τ'} ticket left, s.transport.Shows v t f g good →
      good (s.pollCall i).1.surroundings → s.progress? i = some (.waiting ticket left) →
        (s.veiled v t f g).pollCall i = Prod.map (veiled v t f g) id (s.pollCall i) := by
    intro s ticket left h hgood hp
    rw [pollCall_waiting hp] at hgood ⊢
    rw [pollCall_waiting (progress?_veiled hp), pollTaken_veiled h i ticket left hgood]
  cases hp : s.progress? i with
  | none =>
      have hp' : (s.veiled v t f g).progress? i = none := by
        rw [progress?, calls_veiled, Option.map_map, Option.map_eq_none_iff]
        exact Option.map_eq_none_iff.mp hp
      rw [pollCall_none hp, pollCall_none hp']
      rfl
  | some p =>
      have hp' := progress?_veiled (v := v) (t := t) (f := f) (g := g) hp
      cases p with
      | finished r =>
          rw [pollCall_finished hp, pollCall_finished hp']
          rfl
      | waiting ticket left => exact waiting ticket left h hgood hp
      | unsent =>
          obtain ⟨c, hc, -⟩ := exists_call_of_progress? hp
          have hkept := (steady_sendCall s i).transport
          rw [pollCall_unsent hp] at hgood ⊢
          rw [pollCall_unsent hp', sendCall_veiled h
            (good_of_pollAll [i] (hkept ▸ h) hgood)]
          exact waiting _ _ (hkept ▸ h) hgood (progress?_sendCall_self hc)

theorem pollUpTo_veiled (i : Nat) :
    ∀ (n : Nat) {s : Session σ' τ'}, s.transport.Shows v t f g good →
      good (s.pollUpTo i n).1.surroundings →
      (s.veiled v t f g).pollUpTo i n = Prod.map (veiled v t f g) id (s.pollUpTo i n)
  | 0, _, _, _ => rfl
  | n + 1, s, h, hgood => by
      have hkept := (steady_pollCall s i).transport
      cases hp : (s.pollCall i).2 with
      | some r =>
          rw [pollUpTo_some n hp] at hgood ⊢
          have hpoll := pollCall_veiled h hgood
          have hp' : ((s.veiled v t f g).pollCall i).2 = some r := by rw [hpoll]; exact hp
          rw [pollUpTo_some n hp', hpoll]
      | none =>
          rw [pollUpTo_none n hp] at hgood ⊢
          obtain ⟨k, hk⟩ := exists_pollAll_pollUpTo i n (s.pollCall i).1
          have hpoll := pollCall_veiled h (good_of_pollAll _ (hkept ▸ h) (hk ▸ hgood))
          have hp' : ((s.veiled v t f g).pollCall i).2 = none := by rw [hpoll]; exact hp
          rw [pollUpTo_none n hp', hpoll]
          exact pollUpTo_veiled i n (hkept ▸ h) hgood

theorem pollsLeft_veiled (s : Session σ' τ') (i : Nat) :
    (s.veiled v t f g).pollsLeft i = s.pollsLeft i := by
  unfold pollsLeft
  rw [calls_veiled]
  cases s.calls[i]? with
  | none => rfl
  | some c =>
      obtain ⟨_, _, p⟩ := c
      cases p <;> rfl

theorem awaitCall_veiled {s : Session σ' τ'} (h : s.transport.Shows v t f g good) {i : Nat}
    (hgood : good (s.awaitCall i).1.surroundings) :
    (s.veiled v t f g).awaitCall i = Prod.map (veiled v t f g) id (s.awaitCall i) := by
  have hkept := (steady_pollCall s i).transport
  cases hp : (s.pollCall i).2 with
  | some r =>
      rw [awaitCall_some hp] at hgood ⊢
      have hpoll := pollCall_veiled h hgood
      have hp' : ((s.veiled v t f g).pollCall i).2 = some r := by rw [hpoll]; exact hp
      rw [awaitCall_some hp', hpoll]
  | none =>
      rw [awaitCall_none hp] at hgood ⊢
      obtain ⟨k, hk⟩ := exists_pollAll_pollUpTo i ((s.pollCall i).1.pollsLeft i) (s.pollCall i).1
      have hpoll := pollCall_veiled h (good_of_pollAll _ (hkept ▸ h) (hk ▸ hgood))
      have hp' : ((s.veiled v t f g).pollCall i).2 = none := by rw [hpoll]; exact hp
      rw [awaitCall_none hp', hpoll, Prod.map_fst, pollsLeft_veiled]
      exact pollUpTo_veiled i _ (hkept ▸ h) hgood

/-! ## Joins -/

theorem pollRound_veiled :
    ∀ (fs : List (Future × Option (Result Json))) {s : Session σ' τ'},
      s.transport.Shows v t f g good → good (s.pollRound fs).1.surroundings →
        (s.veiled v t f g).pollRound fs = Prod.map (veiled v t f g) id (s.pollRound fs)
  | [], _, _, _ => rfl
  | (fut, some r) :: rest, s, h, hgood => by
      unfold pollRound
      rw [pollRound_veiled rest h hgood]
      rfl
  | (fut, none) :: rest, s, h, hgood => by
      have hkept : (s.pollCall fut.call).1.transport = s.transport :=
        (steady_pollCall s fut.call).transport
      have hrest : good ((s.pollCall fut.call).1.pollRound rest).1.surroundings := hgood
      rw [pollRound_fst] at hgood
      unfold pollRound
      rw [pollCall_veiled h (good_of_pollAll _ (hkept ▸ h) hgood)]
      show (((s.pollCall fut.call).1.veiled v t f g).pollRound rest).map id _ = _
      rw [pollRound_veiled rest (hkept ▸ h) hrest]
      rfl

theorem roundsLeft_veiled (s : Session σ' τ') (fs : List (Future × Option (Result Json))) :
    (s.veiled v t f g).roundsLeft fs = s.roundsLeft fs := by
  simp only [roundsLeft, pollsLeft_veiled]

theorem pollRounds_veiled :
    ∀ (n : Nat) (fs : List (Future × Option (Result Json))) {s : Session σ' τ'},
      s.transport.Shows v t f g good → good (s.pollRounds fs n).1.surroundings →
        (s.veiled v t f g).pollRounds fs n = Prod.map (veiled v t f g) id (s.pollRounds fs n)
  | 0, _, _, _, _ => rfl
  | n + 1, fs, s, h, hgood => by
      have hkept : (s.pollRound fs).1.transport = s.transport := by
        rw [pollRound_fst]
        exact (steady_pollAll s _).transport
      rw [pollRounds_succ] at hgood ⊢
      rw [pollRounds_succ]
      split at hgood
      case isTrue hall =>
        rw [pollRound_veiled fs h hgood]
        show (if (s.pollRound fs).2.all (·.2.isSome) then _ else _) = _
        rw [if_pos hall, if_pos hall]
      case isFalse hall =>
        obtain ⟨calls, -, hcalls⟩ :=
          exists_pollAll_pollRounds n (s.pollRound fs).2 (s.pollRound fs).1
        rw [pollRound_veiled fs h (good_of_pollAll _ (hkept ▸ h) (hcalls ▸ hgood))]
        show (if (s.pollRound fs).2.all (·.2.isSome) then _ else _) = _
        rw [if_neg hall, if_neg hall]
        exact pollRounds_veiled n _ (hkept ▸ h) hgood

theorem joinCalls_veiled {s : Session σ' τ'} (h : s.transport.Shows v t f g good)
    {fs : List Future} (hgood : good (s.joinCalls fs).1.surroundings) :
    (s.veiled v t f g).joinCalls fs = Prod.map (veiled v t f g) id (s.joinCalls fs) := by
  have hkept : (s.pollRound (fs.map fun fut => (fut, none))).1.transport = s.transport := by
    rw [pollRound_fst]
    exact (steady_pollAll s _).transport
  rw [joinCalls_eq] at hgood
  obtain ⟨calls, -, hcalls⟩ := exists_pollAll_pollRounds
    ((s.pollRound (fs.map fun fut => (fut, none))).1.roundsLeft
      (s.pollRound (fs.map fun fut => (fut, none))).2)
    (s.pollRound (fs.map fun fut => (fut, none))).2
    (s.pollRound (fs.map fun fut => (fut, none))).1
  rw [joinCalls_eq, joinCalls_eq]
  dsimp only
  rw [pollRound_veiled _ h (good_of_pollAll _ (hkept ▸ h) (hcalls ▸ hgood)), Prod.map_fst,
    Prod.map_snd, id, roundsLeft_veiled, pollRounds_veiled _ _ (hkept ▸ h) hgood]
  rfl

/-! ## Operations -/

theorem awaitOrKeep_veiled {s : Session σ' τ'} (h : s.transport.Shows v t f g good)
    (fut : Future) :
    ∀ keep, good (s.awaitOrKeep fut keep).1.surroundings →
      (s.veiled v t f g).awaitOrKeep fut keep
        = Prod.map (veiled v t f g) id (s.awaitOrKeep fut keep)
  | some name, _ => rfl
  | none, hgood => by
      rw [awaitOrKeep_none_fst] at hgood
      unfold awaitOrKeep
      rw [awaitCall_veiled h hgood]
      rcases s.awaitCall fut.call with ⟨s', _ | r⟩ <;> rfl

theorem newCall_veiled (s : Session σ' τ') (r : Request) (o : Options) :
    (s.veiled v t f g).newCall r (v.hide o) = Prod.map (veiled v t f g) id (s.newCall r o) := by
  refine Prod.ext ?_ (List.length_map _)
  simp only [newCall, veiled, Prod.map_fst, List.map_append]
  rfl

theorem set_writes_veiled (s : Session σ' τ') (i : Nat) (w : Write) :
    { s.veiled v t f g with writes := (s.veiled v t f g).writes.set i (v.write w) }
      = veiled v t f g { s with writes := s.writes.set i w } := by
  simp only [veiled, List.map_set]

theorem resolve_veiled (s : Session σ' τ') (i : Nat) (w : Write) (given : Option Refinement) :
    (s.veiled v t f g).resolve i (v.write w) (given.map v.refinement)
      = Prod.map (veiled v t f g) id (s.resolve i w given) := by
  -- what is made of a refinement once the write is settled with it
  have settled : ∀ r : Refinement,
      (let noted := (s.veiled v t f g).newCall ((v.write w).requestFor (v.refinement r))
        ((v.write w).options (v.refinement r).options)
       let writes := noted.1.writes.set i { v.write w with stage := .resolved noted.2 }
       ({ noted.1 with writes }, noted.2))
      = Prod.map (veiled v t f g) id
        (let noted := s.newCall (w.requestFor r) (w.options r.options)
         let writes := noted.1.writes.set i { w with stage := .resolved noted.2 }
         ({ noted.1 with writes }, noted.2)) := by
    intro r
    have hoptions : (v.write w).options (v.refinement r).options = v.hide (w.options r.options) :=
      v.options_write w r.options
    rw [v.requestFor_write, hoptions, newCall_veiled]
    exact Prod.ext (set_writes_veiled (s.newCall (w.requestFor r) (w.options r.options)).1 i
      { w with stage := .resolved s.calls.length }) rfl
  obtain ⟨table, mutation, defaults, base, stage⟩ := w
  cases stage with
  | resolved call => rfl
  | unrefined =>
      have h := settled (Write.settle {} given)
      rwa [← v.settle_refinement] at h
  | refined r =>
      have h := settled (Write.settle r given)
      rwa [← v.settle_refinement] at h

theorem takeFutures_veiled :
    ∀ (names : List String) (s : Session σ' τ'),
      (s.veiled v t f g).takeFutures names = Prod.map (veiled v t f g) id (s.takeFutures names)
  | [], _ => rfl
  | name :: rest, s => by
      unfold takeFutures
      rw [futures_veiled]
      cases s.futures.get? name with
      | none => rfl
      | some fut =>
          have ih := takeFutures_veiled rest { s with futures := s.futures.erase name }
          dsimp only
          show Prod.map id _ (takeFutures
            (veiled v t f g { s with futures := s.futures.erase name }) rest) = _
          rw [ih]
          rfl

theorem write?_veiled (s : Session σ' τ') (handle : String) :
    (s.veiled v t f g).write? handle
      = (s.write? handle).map fun p => (p.1, v.write p.2) := by
  unfold write?
  rw [handles_veiled]
  cases s.handles.get? handle with
  | none => rfl
  | some i =>
      have hw : (s.veiled v t f g).writes[i]? = s.writes[i]?.map v.write := List.getElem?_map
      simp only [Option.bind_eq_bind, Option.bind_some, hw]
      cases s.writes[i]? <;> rfl

/-- A query is bound to a name in both sessions. -/
theorem insert_query_veiled (s : Session σ' τ') (name : String) (q : Query) :
    { s.veiled v t f g with queries := (s.veiled v t f g).queries.insert name (v.query q) }
      = veiled v t f g { s with queries := s.queries.insert name q } := by
  simp only [veiled, SortedMap.mapValues_insert]

/-- What is seen of an operation through the veil does what is seen of its doing. -/
theorem step_veiled {s : Session σ' τ'} (h : s.transport.Shows v t f g good) {op : Operation}
    (hgood : good (s.step op).1.surroundings) :
    (s.veiled v t f g).step (v.operation op) = Prod.map (veiled v t f g) id (s.step op) := by
  cases op with
  | openQuery name table =>
      exact Prod.ext (insert_query_veiled s name (.fresh table s.defaults)) rfl
  | cloneQuery name copy =>
      simp only [step, Veil.operation, queries_veiled]
      cases s.queries.get? name with
      | none => rfl
      | some q => exact Prod.ext (insert_query_veiled s copy q) rfl
  | clause name c =>
      simp only [step, Veil.operation, queries_veiled]
      cases s.queries.get? name with
      | none => rfl
      | some q =>
          refine Prod.ext ?_ rfl
          show { s.veiled v t f g with
            queries := (s.veiled v t f g).queries.insert name ((v.query q).apply c) } = _
          rw [v.apply_query]
          exact insert_query_veiled s name (q.apply c)
  | fetch name fe keep =>
      simp only [step, Veil.operation, queries_veiled] at hgood ⊢
      cases hq : s.queries.get? name with
      | none => rfl
      | some q =>
          rw [hq] at hgood
          dsimp only [Option.map_some, Veil.fetch]
          rw [v.options_query, v.payload_query, newCall_veiled]
          dsimp only [Prod.map]
          rw [awaitOrKeep_veiled]
          · rfl
          · exact h
          · exact hgood
  | write name w handle =>
      simp only [step, Veil.operation, queries_veiled]
      cases s.queries.get? name with
      | none => rfl
      | some q =>
          dsimp only [Option.map_some]
          rw [v.described_query]
          cases described q w with
          | error e => rfl
          | ok w =>
              refine Prod.ext ?_ rfl
              simp only [Except.map, veiled, List.map_append, List.length_map, Prod.map_fst]
              rfl
  | cloneHandle handle copy =>
      simp only [step, Veil.operation, handles_veiled]
      cases s.handles.get? handle <;> rfl
  | refine handle r =>
      simp only [step, Veil.operation, write?_veiled]
      cases s.write? handle with
      | none => rfl
      | some p =>
          refine Prod.ext ?_ rfl
          dsimp only [Option.map_some, Prod.map_fst]
          rw [v.refine_write]
          exact set_writes_veiled s p.1 (p.2.refine r)
  | trigger handle tr keep =>
      simp only [step, Veil.operation, write?_veiled] at hgood ⊢
      cases hw : s.write? handle with
      | none => rfl
      | some p =>
          rw [hw] at hgood
          obtain ⟨i, w⟩ := p
          dsimp only [Option.map_some, Veil.trigger]
          rw [resolve_veiled]
          dsimp only [Prod.map]
          rw [awaitOrKeep_veiled]
          · rfl
          · have hkept := (keeps_settings (.trigger handle tr keep) s.transport s.defaults).settle
              ⟨rfl, rfl⟩ (write?_eq_some hw).2 tr.refinement
            rw [hkept.1]
            exact h
          · exact hgood
  | cloneFuture name copy =>
      simp only [step, Veil.operation, futures_veiled]
      cases s.futures.get? name with
      | none => rfl
      | some fut =>
          dsimp only
          split <;> rfl
  | await name =>
      simp only [step, Veil.operation, futures_veiled] at hgood ⊢
      cases hf : s.futures.get? name with
      | none => rfl
      | some fut =>
          rw [hf] at hgood
          have hawait := awaitOrKeep_veiled (s := { s with futures := s.futures.erase name }) h
            fut none hgood
          exact congrArg (fun p => (p.1, Except.ok p.2)) hawait
  | poll name =>
      simp only [step, Veil.operation, futures_veiled] at hgood ⊢
      cases hf : s.futures.get? name with
      | none => rfl
      | some fut =>
          have hpolled : good (s.pollCall fut.call).1.surroundings := by
            rw [hf] at hgood
            dsimp only at hgood
            rcases hp : s.pollCall fut.call with ⟨s', _ | r⟩
            · rw [hp] at hgood
              exact hgood
            · rw [hp] at hgood
              exact hgood
          dsimp only
          rw [pollCall_veiled h hpolled]
          rcases s.pollCall fut.call with ⟨s', _ | r⟩ <;> rfl
  | drop name =>
      simp only [step, Veil.operation, futures_veiled]
      cases s.futures.get? name <;> rfl
  | join names =>
      simp only [step, Veil.operation] at hgood ⊢
      rw [takeFutures_veiled]
      have hkept := (keeps_settings (.join names) s.transport s.defaults).takeFutures names
        ⟨rfl, rfl⟩
      rcases hp : s.takeFutures names with ⟨s', _ | fs⟩
      · rfl
      · rw [hp] at hkept hgood
        dsimp only [Prod.map]
        show ((joinCalls (s'.veiled v t f g) fs).1, _) = _
        rw [joinCalls_veiled (hkept.1 ▸ h) hgood]
        rfl

theorem shows_step {s : Session σ' τ'} (h : s.transport.Shows v t f g good) (op : Operation) :
    (s.step op).1.transport.Shows v t f g good :=
  (transport_step s op).symm ▸ h

theorem run_veiled (ops : List Operation) {s : Session σ' τ'}
    (h : s.transport.Shows v t f g good) (hgood : good (s.run ops).surroundings) :
    (s.veiled v t f g).run (ops.map v.operation) = (s.run ops).veiled v t f g := by
  induction ops generalizing s with
  | nil => rfl
  | cons op rest ih =>
      have hstep := shows_step h op
      have hrest := ih hstep hgood
      show ((s.veiled v t f g).step (v.operation op)).1.run (rest.map v.operation) = _
      rw [step_veiled h (good_of_run rest hstep hgood)]
      exact hrest

theorem trace_veiled (ops : List Operation) {s : Session σ' τ'}
    (h : s.transport.Shows v t f g good) (hgood : good (s.run ops).surroundings) :
    (s.veiled v t f g).trace (ops.map v.operation)
      = (s.trace ops).map (Prod.map v.operation id) := by
  induction ops generalizing s with
  | nil => rfl
  | cons op rest ih =>
      have hstep := shows_step h op
      have hrest := ih hstep hgood
      rw [List.map_cons, trace, trace, step_veiled h (good_of_run rest hstep hgood)]
      exact congrArg (_ :: ·) hrest

end

/-! ## Without a veil -/

/-- The session over `t` that a session shows when it is looked at through `f` and `g`. -/
def through (t : Transport σ τ) (f : σ' → σ) (g : τ' → τ) (s : Session σ' τ') : Session σ τ where
  transport := t
  surroundings := f s.surroundings
  defaults := s.defaults
  queries := s.queries
  writes := s.writes
  handles := s.handles
  calls := s.calls.map (Call.map g)
  futures := s.futures

section

variable {t : Transport σ τ} {f : σ' → σ} {g : τ' → τ}

theorem veiled_clear (s : Session σ' τ') : s.veiled .clear t f g = s.through t f g := by
  have hqueries : (s.queries.mapValues fun _ q => Veil.clear.query q) = s.queries :=
    SortedMap.mapValues_id (fun _ _ => rfl) s.queries
  have hwrites : s.writes.map Veil.clear.write = s.writes :=
    (List.map_congr_left fun w _ => Veil.write_clear w).trans (List.map_id _)
  simp only [veiled, through, hqueries, hwrites]
  rfl

theorem run_through (ops : List Operation) {s : Session σ' τ'} (h : s.transport.Projects t f g) :
    (s.through t f g).run ops = (s.run ops).through t f g := by
  have hrun := run_veiled ops h.shows trivial
  rwa [Veil.map_operation_clear, veiled_clear, veiled_clear] at hrun

theorem trace_through (ops : List Operation) {s : Session σ' τ'}
    (h : s.transport.Projects t f g) : (s.through t f g).trace ops = s.trace ops := by
  have htrace := trace_veiled ops h.shows trivial
  rw [Veil.map_operation_clear, veiled_clear] at htrace
  have hsame : ∀ p ∈ s.trace ops, Prod.map Veil.clear.operation id p = p := fun p _ =>
    Prod.ext (Veil.operation_clear p.1) rfl
  rw [htrace, List.map_congr_left hsame, List.map_id']

end

end Session

end TableGateway
