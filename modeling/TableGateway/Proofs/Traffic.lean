/-
Traffic: what passes through a transport in the course of a run.

A recorded transport keeps a list of the requests that it receives and of the
responses that it gives, each response with the position of the request that it
answers.  Nothing else changes (`projects_recorded`), so what holds of the
record of every recorded run is what every run sends and receives.

`Flown` ties the record to the table of calls: the requests received are those
of the calls that have been polled, in the order of their first polls and each
once, and a call is finished with the response to its own request.  Polling
keeps it (`flown_pollCall`), in awaits (`flown_awaitCall`) and in joins
(`flown_joinCalls`) too.
-/
import Mathlib.Data.List.Induction
import Mathlib.Data.List.Nodup
import TableGateway.Proofs.Projection

namespace TableGateway

/-- What a transport has received and given. -/
structure Traffic where
  /-- All requests, first one first, with their options. -/
  received : List (Request × Options) := []
  /-- All responses, each with the position of the request that it answers. -/
  answered : List (Nat × Response) := []

namespace Transport

variable {σ τ : Type}

/-- Notes a request; its ticket gets its position. -/
def receive (send : Request → Options → σ → σ × τ) (r : Request) (o : Options)
    (s : σ × Traffic) : (σ × Traffic) × (τ × Nat) :=
  let (inner, ticket) := send r o s.1
  ((inner, { s.2 with received := s.2.received ++ [(r, o)] }), (ticket, s.2.received.length))

/-- Notes the response that a ticket is turned in for. -/
def answer (finish : τ → σ → σ × Response) (ticket : τ × Nat) (s : σ × Traffic) :
    (σ × Traffic) × Response :=
  let (inner, response) := finish ticket.1 s.1
  ((inner, { s.2 with answered := s.2.answered ++ [(ticket.2, response)] }), response)

/-- The transport with a record of its traffic. -/
def recorded (t : Transport σ τ) : Transport (σ × Traffic) (τ × Nat) where
  toEndpoints := .uniform (receive t.dispatch)
  submit r o := .later (receive t.send r o)
  polls ticket := t.polls ticket.1
  elapsed ticket := t.elapsed ticket.1
  finish := answer t.finish

theorem dispatch_recorded (t : Transport σ τ) (r : Request) :
    t.recorded.dispatch r = receive t.dispatch r :=
  Endpoints.dispatch_uniform (receive t.dispatch) r

/-- But for its record, a recorded transport is the transport inside it. -/
theorem projects_recorded (t : Transport σ τ) : t.recorded.Projects t Prod.fst Prod.fst where
  dispatch r o s := by rw [dispatch_recorded]; rfl
  polls _ := rfl
  finish _ _ := rfl

end Transport

/-! ## Lists without repetitions -/

section

variable {α β : Type} [DecidableEq α] [DecidableEq β]

theorem eraseDups_append_of_subset {as bs : List α} (h : ∀ b ∈ bs, b ∈ as) :
    (as ++ bs).eraseDups = as.eraseDups := by
  have hnone : bs.removeAll as = [] := by
    apply List.filter_eq_nil_iff.mpr
    intro b hb
    simp only [List.elem_eq_mem, h b hb, decide_true, Bool.not_true, Bool.false_eq_true,
      not_false_eq_true]
  rw [List.eraseDups_append, hnone, List.eraseDups_nil, List.append_nil]

theorem eraseDups_concat (l : List α) (a : α) :
    (l ++ [a]).eraseDups = if a ∈ l then l.eraseDups else l.eraseDups ++ [a] := by
  by_cases h : a ∈ l
  · rw [if_pos h, eraseDups_append_of_subset fun b hb => List.mem_singleton.mp hb ▸ h]
  · have hsame : [a].removeAll l = [a] := by
      apply List.filter_eq_self.mpr
      intro b hb
      rw [List.mem_singleton.mp hb, List.elem_eq_mem, decide_eq_false h]
      rfl
    rw [if_neg h, List.eraseDups_append, hsame]
    rfl

theorem nodup_eraseDups (l : List α) : l.eraseDups.Nodup := by
  induction l using List.reverseRecOn with
  | nil => exact List.nodup_nil
  | append_singleton l a ih =>
      rw [eraseDups_concat]
      split
      case isTrue => exact ih
      case isFalse h =>
        refine List.nodup_append.mpr ⟨ih, List.nodup_singleton a, fun b hb c hc hbc => h ?_⟩
        rw [← List.mem_singleton.mp hc, ← hbc]
        exact List.mem_eraseDups.mp hb

/-- A renaming that keeps the members of a list apart goes through `eraseDups`. -/
theorem eraseDups_map_of_injOn {f : α → β} {l : List α}
    (h : ∀ a ∈ l, ∀ b ∈ l, f a = f b → a = b) : (l.map f).eraseDups = l.eraseDups.map f := by
  induction l using List.reverseRecOn with
  | nil => rfl
  | append_singleton l a ih =>
      have hl : ∀ b ∈ l, b ∈ l ++ [a] := fun b hb => List.mem_append_left _ hb
      have ha : a ∈ l ++ [a] := List.mem_append_right _ (List.mem_singleton_self a)
      have hmem : f a ∈ l.map f ↔ a ∈ l := by
        refine ⟨?_, List.mem_map_of_mem⟩
        intro hfa
        obtain ⟨b, hb, hba⟩ := List.mem_map.mp hfa
        exact h b (hl b hb) a ha hba ▸ hb
      rw [List.map_append, List.map_singleton, eraseDups_concat, eraseDups_concat,
        ih fun b hb c hc => h b (hl b hb) c (hl c hc), if_congr hmem rfl rfl]
      split
      · rfl
      · rw [List.map_append, List.map_singleton]

end

namespace Session

variable {σ τ : Type}

/-! ## The table of calls and the record -/

/-- Where a call stands in the record, by how far it has got.  `order` lists the
calls whose requests were received. -/
def Recorded (traffic : Traffic) (order : List Nat) (i : Nat) : Progress (τ × Nat) → Prop
  | .unsent => i ∉ order
  | .waiting ticket _ => order[ticket.2]? = some i ∧ ticket.2 ∉ traffic.answered.map Prod.fst
  | .finished r => ∃ k response,
      order[k]? = some i ∧ (k, response) ∈ traffic.answered ∧ r = .ofResponse response

/-- The record of a session in which the calls `polls` have been polled. -/
structure Flown (s : Session (σ × Traffic) (τ × Nat)) (polls : List Nat) : Prop where
  transport : ∃ t : Transport σ τ, s.transport = t.recorded
  received : s.surroundings.2.received.map some
    = polls.eraseDups.map fun i => s.calls[i]?.map Call.content
  once : (s.surroundings.2.answered.map Prod.fst).Nodup
  answered : ∀ k ∈ s.surroundings.2.answered.map Prod.fst, k < polls.eraseDups.length
  calls : ∀ i p, s.progress? i = some p → Recorded s.surroundings.2 polls.eraseDups i p

variable {s : Session (σ × Traffic) (τ × Nat)} {polls : List Nat}

theorem Flown.length_received (h : s.Flown polls) :
    s.surroundings.2.received.length = polls.eraseDups.length := by
  simpa using congrArg List.length h.received

theorem mem_polls_of_recorded {traffic : Traffic} {i : Nat} {p : Progress (τ × Nat)}
    (h : Recorded traffic polls.eraseDups i p) (hp : p ≠ .unsent) : i ∈ polls := by
  refine List.mem_eraseDups.mp ?_
  cases p with
  | unsent => exact absurd rfl hp
  | waiting ticket left => exact List.mem_of_getElem? h.1
  | finished r =>
      obtain ⟨k, response, hk, -⟩ := h
      exact List.mem_of_getElem? hk

/-- The contents of calls do not change. -/
theorem Flown.received_of_steady {s' : Session (σ × Traffic) (τ × Nat)} (h : s.Flown polls)
    (hs : Steady s s') : s.surroundings.2.received.map some
      = polls.eraseDups.map fun i => s'.calls[i]?.map Call.content := by
  rw [h.received]
  apply List.map_congr_left
  intro i _
  rw [← List.getElem?_map, ← List.getElem?_map, hs.contents]

/-- When only the progress of one call and the record change, the other calls
need only keep their places. -/
theorem Flown.recorded_of_ne {s' : Session (σ × Traffic) (τ × Nat)} {polls' : List Nat} {i : Nat}
    (h : s.Flown polls)
    (hself : ∀ p, s'.progress? i = some p → Recorded s'.surroundings.2 polls'.eraseDups i p)
    (hprogress : ∀ j, i ≠ j → s'.progress? j = s.progress? j)
    (hothers : ∀ j (p : Progress (τ × Nat)), i ≠ j →
      Recorded s.surroundings.2 polls.eraseDups j p →
        Recorded s'.surroundings.2 polls'.eraseDups j p) :
    ∀ j p, s'.progress? j = some p → Recorded s'.surroundings.2 polls'.eraseDups j p := by
  intro j p hp
  by_cases hij : i = j
  · exact hij ▸ hself p (hij ▸ hp)
  · exact hothers j p hij (h.calls j p (hprogress j hij ▸ hp))

/-! ## Polls -/

section

variable {t : Transport σ τ}

/-- The response to a call is added to the record with the place of its request. -/
theorem surroundings_finishCall (ht : s.transport = t.recorded) (i : Nat) (ticket : τ × Nat) :
    (s.finishCall i ticket).surroundings
      = ((t.finish ticket.1 s.surroundings.1).1,
          { s.surroundings.2 with answered := s.surroundings.2.answered
              ++ [(ticket.2, (t.finish ticket.1 s.surroundings.1).2)] }) := by
  show (s.transport.finish ticket s.surroundings).1 = _
  rw [ht]
  rfl

theorem surroundings_sendCall (ht : s.transport = t.recorded) {i : Nat} {c : Call (τ × Nat)}
    (hc : s.calls[i]? = some c) :
    (s.sendCall i).surroundings
      = ((t.dispatch c.request c.options s.surroundings.1).1,
          { s.surroundings.2 with received := s.surroundings.2.received ++ [c.content] }) := by
  simp only [sendCall, hc]
  show (s.transport.dispatch c.request c.options s.surroundings).1 = _
  rw [ht, Transport.dispatch_recorded]
  rfl

/-- A ticket has the place at which its request is received, the first that is free. -/
theorem ticket_send (ht : s.transport = t.recorded) (c : Call (τ × Nat)) :
    (s.send c).2 = ((t.dispatch c.request c.options s.surroundings.1).2,
      s.surroundings.2.received.length) := by
  show (s.transport.dispatch c.request c.options s.surroundings).2 = _
  rw [ht, Transport.dispatch_recorded]
  rfl

end

theorem flown_wait {i left : Nat} {ticket : τ × Nat} (h : s.Flown polls)
    (hp : s.progress? i = some (.waiting ticket (left + 1))) :
    (s.setProgress i (.waiting ticket left)).Flown polls where
  transport := h.transport
  received := h.received_of_steady (steady_setProgress s i _)
  once := h.once
  answered := h.answered
  calls := by
    refine h.recorded_of_ne (i := i) ?_ ?_ fun j p _ hr => hr
    · intro p hp'
      rw [progress?_setProgress, if_pos rfl, hp] at hp'
      cases hp'
      obtain ⟨hplace, hnew⟩ := h.calls i _ hp
      exact ⟨hplace, hnew⟩
    · intro j hij
      rw [progress?_setProgress, if_neg hij]

/-- The places of other calls are not those of the call that is finished. -/
theorem recorded_answer {traffic : Traffic} {i j k : Nat} {response : Response}
    {p : Progress (τ × Nat)} (hij : i ≠ j) (hk : polls.eraseDups[k]? = some i)
    (h : Recorded traffic polls.eraseDups j p) :
    Recorded { traffic with answered := traffic.answered ++ [(k, response)] }
      polls.eraseDups j p := by
  cases p with
  | unsent => exact h
  | waiting ticket left =>
      refine ⟨h.1, ?_⟩
      intro hmem
      rw [List.map_append, List.mem_append] at hmem
      rcases hmem with hmem | hmem
      · exact h.2 hmem
      · -- two calls do not have one place
        have heq : ticket.2 = k := List.mem_singleton.mp hmem
        exact hij (Option.some.inj (hk.symm.trans (heq ▸ h.1)))
  | finished r =>
      obtain ⟨l, response', hl, hmem, hr⟩ := h
      exact ⟨l, response', hl, List.mem_append_left _ hmem, hr⟩

theorem flown_finish {i : Nat} {ticket : τ × Nat} (h : s.Flown polls)
    (hp : s.progress? i = some (.waiting ticket 0)) : (s.finishCall i ticket).Flown polls := by
  obtain ⟨t, ht⟩ := h.transport
  obtain ⟨hplace, hnew⟩ := h.calls i _ hp
  have hsurroundings := surroundings_finishCall ht i ticket
  refine ⟨⟨t, ht⟩, ?_, ?_, ?_, ?_⟩
  · rw [hsurroundings]
    exact h.received_of_steady (steady_finishCall s i ticket)
  · rw [hsurroundings, List.map_append]
    refine List.nodup_append.mpr ⟨h.once, List.nodup_singleton _, ?_⟩
    intro a ha b hb hab
    have hnew' : a = ticket.2 := hab.trans (List.mem_singleton.mp hb)
    exact hnew (hnew' ▸ ha)
  · intro k hk
    rw [hsurroundings, List.map_append] at hk
    rcases List.mem_append.mp hk with hk | hk
    · exact h.answered k hk
    · rw [List.mem_singleton.mp hk]
      exact (List.getElem?_eq_some_iff.mp hplace).1
  · refine h.recorded_of_ne (i := i) ?_ ?_ ?_
    · intro p hp'
      rw [progress?_finishCall, if_pos rfl, hp] at hp'
      cases hp'
      rw [hsurroundings, ht]
      exact ⟨ticket.2, _, hplace, List.mem_append_right _ (List.mem_singleton_self _), rfl⟩
    · intro j hij
      rw [progress?_finishCall, if_neg hij]
    · intro j p hij hr
      rw [hsurroundings]
      exact recorded_answer hij hplace hr

theorem flown_pollTaken {i left : Nat} {ticket : τ × Nat} (h : s.Flown polls)
    (hp : s.progress? i = some (.waiting ticket left)) :
    (s.pollTaken i ticket left).1.Flown polls := by
  cases left with
  | zero => exact flown_finish h hp
  | succ left => exact flown_wait h hp

/-- The places of the calls that are received stay when one more is. -/
theorem recorded_receive {traffic : Traffic} {i j : Nat} {call : Request × Options}
    {p : Progress (τ × Nat)} (hij : i ≠ j) (hi : i ∉ polls)
    (h : Recorded traffic polls.eraseDups j p) :
    Recorded { traffic with received := traffic.received ++ [call] }
      (polls ++ [i]).eraseDups j p := by
  rw [eraseDups_concat, if_neg hi]
  have hplace : ∀ k : Nat, polls.eraseDups[k]? = some j →
      (polls.eraseDups ++ [i])[k]? = some j := by
    intro k hk
    obtain ⟨hlt, -⟩ := List.getElem?_eq_some_iff.mp hk
    rw [List.getElem?_append_left hlt, hk]
  cases p with
  | unsent =>
      intro hmem
      rcases List.mem_append.mp hmem with hmem | hmem
      · exact h hmem
      · exact hij (List.mem_singleton.mp hmem).symm
  | waiting ticket left => exact ⟨hplace _ h.1, h.2⟩
  | finished r =>
      obtain ⟨k, response, hk, hr⟩ := h
      exact ⟨k, response, hplace k hk, hr⟩

theorem flown_sendCall {i : Nat} (h : s.Flown polls) (hp : s.progress? i = some .unsent) :
    (s.sendCall i).Flown (polls ++ [i]) := by
  obtain ⟨t, ht⟩ := h.transport
  obtain ⟨c, hc, hunsent⟩ := exists_call_of_progress? hp
  have hi : i ∉ polls := fun hmem => h.calls i _ hp (List.mem_eraseDups.mpr hmem)
  have hsurroundings := surroundings_sendCall ht hc
  have hticket : (s.send c).2.2 = polls.eraseDups.length := by
    rw [ticket_send ht, h.length_received]
  have hsteady := steady_sendCall s i
  refine ⟨⟨t, hsteady.transport.trans ht⟩, ?_, ?_, ?_, ?_⟩
  · have hself : (s.sendCall i).calls[i]?.map Call.content = some c.content := by
      rw [← List.getElem?_map, hsteady.contents, List.getElem?_map, hc]
      rfl
    rw [hsurroundings, List.map_append, h.received_of_steady hsteady, eraseDups_concat, if_neg hi,
      List.map_append, List.map_singleton, List.map_singleton, hself]
  · rw [hsurroundings]
    exact h.once
  · intro k hk
    rw [hsurroundings] at hk
    rw [eraseDups_concat, if_neg hi, List.length_append]
    exact Nat.lt_succ_of_lt (h.answered k hk)
  · refine h.recorded_of_ne (i := i) ?_ ?_ ?_
    · intro p hp'
      rw [progress?_sendCall_self hc] at hp'
      cases hp'
      rw [hsurroundings, Recorded, hticket, eraseDups_concat, if_neg hi]
      exact ⟨List.getElem?_concat_length, fun hmem => Nat.lt_irrefl _ (h.answered _ hmem)⟩
    · intro j hij
      exact progress?_sendCall_ne s hij
    · intro j p hij hr
      rw [hsurroundings]
      exact recorded_receive hij hi hr

/-- Polling again what was polled before changes nothing about the order. -/
theorem flown_append_of_subset {calls : List Nat} (hmem : ∀ i ∈ calls, i ∈ polls) :
    s.Flown (polls ++ calls) ↔ s.Flown polls := by
  have heq : (polls ++ calls).eraseDups = polls.eraseDups := eraseDups_append_of_subset hmem
  constructor
  · exact fun h => ⟨h.transport, heq ▸ h.received, h.once, heq ▸ h.answered, heq ▸ h.calls⟩
  · exact fun h => ⟨h.transport, heq.symm ▸ h.received, h.once, heq.symm ▸ h.answered,
      heq.symm ▸ h.calls⟩

theorem flown_pollCall {i : Nat} (h : s.Flown polls) (hi : i < s.calls.length) :
    (s.pollCall i).1.Flown (polls ++ [i]) := by
  have polled : ∀ {s' : Session (σ × Traffic) (τ × Nat)} {p}, s'.Flown polls →
      s.progress? i = some p → p ≠ .unsent → s'.Flown (polls ++ [i]) := by
    intro s' p h' hp hne
    have hmem := mem_polls_of_recorded (h.calls i p hp) hne
    exact (flown_append_of_subset fun j hj => List.mem_singleton.mp hj ▸ hmem).mpr h'
  obtain ⟨c, hc⟩ : ∃ c, s.calls[i]? = some c := ⟨_, List.getElem?_eq_getElem hi⟩
  have hp : s.progress? i = some c.progress := by rw [progress?, hc]; rfl
  cases hprogress : c.progress with
  | finished r =>
      rw [hprogress] at hp
      rw [pollCall_finished hp]
      exact polled h hp (by simp)
  | waiting ticket left =>
      rw [hprogress] at hp
      rw [pollCall_waiting hp]
      exact polled (flown_pollTaken h hp) hp (by simp)
  | unsent =>
      rw [hprogress] at hp
      have hsent := progress?_sendCall_self hc
      rw [pollCall_unsent hp, pollCall_waiting hsent]
      exact flown_pollTaken (flown_sendCall h hp) hsent

theorem flown_pollAll :
    ∀ {calls : List Nat} {s : Session (σ × Traffic) (τ × Nat)} {polls : List Nat},
      s.Flown polls → (∀ i ∈ calls, i < s.calls.length) → (s.pollAll calls).Flown (polls ++ calls)
  | [], _, polls, h, _ => (List.append_nil polls).symm ▸ h
  | i :: rest, s, polls, h, hcalls => by
      have hi := flown_pollCall h (hcalls i List.mem_cons_self)
      have hrest : ∀ j ∈ rest, j < (s.pollCall i).1.calls.length := fun j hj =>
        (steady_pollCall s i).length_calls.symm ▸ hcalls j (List.mem_cons_of_mem _ hj)
      have h' := flown_pollAll hi hrest
      rwa [List.append_assoc] at h'

theorem flown_awaitCall {i : Nat} (h : s.Flown polls) (hi : i < s.calls.length) :
    (s.awaitCall i).1.Flown (polls ++ [i]) := by
  obtain ⟨k, hk⟩ := exists_pollAll_awaitCall s i
  have hall : (s.awaitCall i).1.Flown (polls ++ (i :: List.replicate k i)) := by
    rw [hk]
    apply flown_pollAll h
    intro j hj
    rcases List.mem_cons.mp hj with rfl | hj
    · exact hi
    · exact (List.eq_of_mem_replicate hj).symm ▸ hi
  rw [List.append_cons] at hall
  refine (flown_append_of_subset fun j hj => List.mem_append_right _ ?_).mp hall
  exact List.mem_singleton.mpr (List.eq_of_mem_replicate hj)

theorem flown_joinCalls {fs : List Future} (h : s.Flown polls)
    (hfs : ∀ f ∈ fs, f.call < s.calls.length) :
    (s.joinCalls fs).1.Flown (polls ++ fs.map Future.call) := by
  obtain ⟨calls, hsub, hcalls⟩ := exists_pollAll_joinCalls s fs
  have hthere : ∀ i ∈ fs.map Future.call, i < s.calls.length := by
    intro i hi
    obtain ⟨f, hf, rfl⟩ := List.mem_map.mp hi
    exact hfs f hf
  have hall : (s.joinCalls fs).1.Flown (polls ++ (fs.map Future.call ++ calls)) := by
    rw [hcalls]
    apply flown_pollAll h
    intro i hi
    rcases List.mem_append.mp hi with hi | hi
    · exact hthere i hi
    · exact hthere i (hsub i hi)
  rw [← List.append_assoc] at hall
  exact (flown_append_of_subset fun i hi => List.mem_append_right _ (hsub i hi)).mp hall

/-! ## Other changes -/

/-- What does not touch the calls, the surroundings or the transport does not
touch the record. -/
theorem Flown.congr {s' : Session (σ × Traffic) (τ × Nat)} (h : s.Flown polls)
    (htransport : s'.transport = s.transport) (hsurroundings : s'.surroundings = s.surroundings)
    (hcalls : s'.calls = s.calls) : s'.Flown polls := by
  refine ⟨htransport ▸ h.transport, ?_, ?_, ?_, ?_⟩
  · rw [hsurroundings, hcalls]; exact h.received
  · rw [hsurroundings]; exact h.once
  · rw [hsurroundings]; exact h.answered
  · rw [hsurroundings]
    intro i p hp
    rw [progress?, hcalls] at hp
    exact h.calls i p hp

/-- A new call is not in the record. -/
theorem flown_newCall (h : s.Flown polls) (r : Request) (o : Options) :
    (s.newCall r o).1.Flown polls := by
  -- what was received is the content of a call that there is
  have hlt : ∀ i ∈ polls.eraseDups, i < s.calls.length := by
    intro i hi
    have hmem : s.calls[i]?.map Call.content ∈ s.surroundings.2.received.map some :=
      h.received ▸ List.mem_map_of_mem hi
    obtain ⟨content, -, hcontent⟩ := List.mem_map.mp hmem
    obtain ⟨c, hc, -⟩ := Option.map_eq_some_iff.mp hcontent.symm
    exact (List.getElem?_eq_some_iff.mp hc).1
  refine ⟨h.transport, ?_, h.once, h.answered, ?_⟩
  · refine h.received.trans (List.map_congr_left ?_)
    intro i hi
    show _ = (s.calls ++ _)[i]?.map Call.content
    rw [List.getElem?_append_left (hlt i hi)]
  · intro i p hp
    rcases progress?_newCall hp with hp | ⟨hi, rfl⟩
    · exact h.calls i p hp
    · exact fun hmem => Nat.lt_irrefl _ (hi ▸ hlt i hmem)

end Session

end TableGateway
