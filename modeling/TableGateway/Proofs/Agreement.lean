/-
Agreement: a session does what its chronicle says.

`Agrees` relates a recorded session to the account that its caller keeps.  The
session has one call for each origin that is settled, at a number that
`owners` gives, and what the caller holds under a name stands for what the
session holds under it.  Every operation keeps this (`exists_agrees_step`), so
every run does (`exists_agrees_run`): what was sent is what the account says,
and so is what the futures yielded.

Besides, no operation that waits gives up (`completes_step`): an await has a
result and a join has as many as it has futures.
-/
import Mathlib.Data.List.Forall2
import TableGateway.Proofs.Chronicle
import TableGateway.Proofs.Descriptions
import TableGateway.Proofs.Traffic

namespace TableGateway

/-- What is recorded, or else nothing of it, settles as one would expect. -/
theorem settle_getD (recorded given : Option Refinement) :
    Write.settle (recorded.getD {}) given = .settledBy recorded given := by
  cases recorded <;> cases given <;> rfl

namespace Session

variable {σ τ : Type}

/-! ## The relation -/

/-- A future of the session stands for the future that its owner knows. -/
structure Holds (owners : List Origin) (f : Future) (h : Held) : Prop where
  origin : owners[f.call]? = some h.origin
  single : f.single = h.single
  shared : f.shared = h.shared

theorem Holds.view {owners : List Origin} {f : Future} {h : Held} (hf : Holds owners f h) :
    f.view = h.view := by
  funext r
  rw [Future.view, Held.view, hf.single]

/-- The stage of a write shows its plan; the call of a settled one is its own. -/
def Shows (owners : List Origin) (i : Nat) : Plan → Stage → Prop
  | .pending none, stage => stage = .unrefined
  | .pending (some r), stage => stage = .refined r
  | .settled _, stage => ∃ call, stage = .resolved call ∧ owners[call]? = some (.write i)

/-- A write of the session is the one that the account describes. -/
structure Stands (defaults : Options) (owners : List Origin) (i : Nat) (w : Write)
    (d : Described) : Prop where
  described : described (d.draft.query defaults) d.writing = .ok { w with stage := .unrefined }
  stage : Shows owners i (.ofCalls d.calls) w.stage

/-- A future yielded the view of the result of its call. -/
def Yielded (s : Session σ τ) (owners : List Origin) (y : Held × Result Json) : Prop :=
  ∃ i r, owners[i]? = some y.1.origin ∧ s.result? i = some r ∧ y.2 = y.1.view r

/-- The session and the account agree; `owners` gives the origin of each call and
`polls` the calls that have been polled. -/
structure Agrees (s : Session (σ × Traffic) (τ × Nat)) (c : Chronicle) (owners : List Origin)
    (polls : List Nat) : Prop where
  queries : ∀ name, s.queries.get? name = (c.queries.get? name).map (·.query s.defaults)
  handles : s.handles = c.handles
  named : ∀ name i, s.handles.get? name = some i → i < s.writes.length
  writes : ∀ i, Option.Rel (Stands s.defaults owners i) s.writes[i]? c.writes[i]?
  futures : ∀ name, Option.Rel (Holds owners) (s.futures.get? name) (c.futures.get? name)
  distinct : owners.Nodup
  contents : s.calls.map (fun call => some call.content) = owners.map (c.sent s.defaults)
  flown : s.Flown polls
  polls : polls.map (owners[·]?) = c.polls.map some
  yields : ∀ y ∈ c.yields, s.Yielded owners y

theorem Shows.append {owners : List Origin} {i : Nat} :
    ∀ {plan : Plan} {stage : Stage}, Shows owners i plan stage →
      ∀ more, Shows (owners ++ more) i plan stage
  | .pending none, _, h, _ => h
  | .pending (some _), _, h, _ => h
  | .settled _, _, ⟨call, hstage, howner⟩, more =>
      ⟨call, hstage, getElem?_append_of_eq_some howner more⟩

theorem Holds.append {owners : List Origin} {f : Future} {h : Held} (hf : Holds owners f h)
    (more : List Origin) : Holds (owners ++ more) f h :=
  ⟨getElem?_append_of_eq_some hf.origin more, hf.single, hf.shared⟩

theorem rel_mono {α β : Type} {R R' : α → β → Prop} (h : ∀ a b, R a b → R' a b) :
    ∀ {a : Option α} {b : Option β}, Option.Rel R a b → Option.Rel R' a b
  | _, _, .none => .none
  | _, _, .some hab => .some (h _ _ hab)

section

variable {s : Session (σ × Traffic) (τ × Nat)} {c : Chronicle} {owners : List Origin}
  {polls : List Nat}

theorem Agrees.length_owners (h : s.Agrees c owners polls) : owners.length = s.calls.length := by
  simpa using congrArg List.length h.contents.symm

theorem Agrees.call_lt {i : Nat} {o : Origin} (h : s.Agrees c owners polls)
    (ho : owners[i]? = some o) : i < s.calls.length :=
  h.length_owners ▸ (List.getElem?_eq_some_iff.mp ho).1

/-- What is due from the origin of a call is what the call sends. -/
theorem Agrees.sent_of_mem {o : Origin} (h : s.Agrees c owners polls) (ho : o ∈ owners) :
    ∃ content, c.sent s.defaults o = some content := by
  have hmem : c.sent s.defaults o ∈ s.calls.map fun call => some call.content :=
    h.contents ▸ List.mem_map_of_mem ho
  obtain ⟨call, -, hcall⟩ := List.mem_map.mp hmem
  exact ⟨_, hcall.symm⟩

theorem Agrees.contents_of_extends {c' : Chronicle} (h : s.Agrees c owners polls)
    (hext : c.Extends c') :
    s.calls.map (fun call => some call.content) = owners.map (c'.sent s.defaults) := by
  refine h.contents.trans (List.map_congr_left ?_)
  intro o ho
  obtain ⟨content, hcontent⟩ := h.sent_of_mem ho
  rw [hcontent, Chronicle.sent_of_extends hext hcontent]

theorem Agrees.polls_append (h : s.Agrees c owners polls) (more : List Origin) :
    polls.map ((owners ++ more)[·]?) = c.polls.map some := by
  refine .trans (List.map_congr_left ?_) h.polls
  intro i hi
  have hmem : owners[i]? ∈ c.polls.map some := h.polls ▸ List.mem_map_of_mem hi
  obtain ⟨o, -, ho⟩ := List.mem_map.mp hmem
  rw [getElem?_append_of_eq_some ho.symm more, ho]

/-! ## Queries, handles and futures -/

theorem Agrees.query {name : String} {q : Query} {d : Draft} (h : s.Agrees c owners polls)
    (hq : q = d.query s.defaults) :
    Agrees { s with queries := s.queries.insert name q }
      { c with queries := c.queries.insert name d } owners polls :=
  { h with
    queries := by
      intro other
      show (s.queries.insert name q).get? other = ((c.queries.insert name d).get? other).map _
      rw [SortedMap.get?_insert, SortedMap.get?_insert]
      split
      · exact congrArg some hq
      · exact h.queries other
    flown := h.flown.congr rfl rfl rfl }

theorem Agrees.handle {name : String} {i : Nat} (h : s.Agrees c owners polls)
    (hi : i < s.writes.length) :
    Agrees { s with handles := s.handles.insert name i }
      { c with handles := c.handles.insert name i } owners polls :=
  { h with
    handles := congrArg (·.insert name i) h.handles
    named := by
      intro other j hj
      rw [SortedMap.get?_insert] at hj
      split at hj
      · exact Option.some.inj hj ▸ hi
      · exact h.named other j hj
    flown := h.flown.congr rfl rfl rfl }

theorem Agrees.keep {name : String} {f : Future} {g : Held} (h : s.Agrees c owners polls)
    (hf : Holds owners f g) :
    Agrees { s with futures := s.futures.insert name f }
      { c with futures := c.futures.insert name g } owners polls :=
  { h with
    futures := by
      intro other
      show Option.Rel _ ((s.futures.insert name f).get? other)
        ((c.futures.insert name g).get? other)
      rw [SortedMap.get?_insert, SortedMap.get?_insert]
      split
      · exact .some hf
      · exact h.futures other
    flown := h.flown.congr rfl rfl rfl }

theorem Agrees.drop (name : String) (h : s.Agrees c owners polls) :
    Agrees { s with futures := s.futures.erase name }
      { c with futures := c.futures.erase name } owners polls :=
  { h with
    futures := by
      intro other
      show Option.Rel _ ((s.futures.erase name).get? other) ((c.futures.erase name).get? other)
      rw [SortedMap.get?_erase, SortedMap.get?_erase]
      split
      · exact .none
      · exact h.futures other
    flown := h.flown.congr rfl rfl rfl }

/-! ## Writes -/

/-- A change of one write, made in the account too. -/
theorem stands_set {defaults : Options} {ws : List Write} {ds : List Described} {i : Nat}
    {w w' : Write} {d : Described} {change : Described → Described}
    (h : ∀ j, Option.Rel (Stands defaults owners j) ws[j]? ds[j]?) (hw : ws[i]? = some w)
    (hd : ds[i]? = some d) (hnew : Stands defaults owners i w' (change d)) :
    ∀ j, Option.Rel (Stands defaults owners j) (ws.set i w')[j]? (ds.modify i change)[j]? := by
  intro j
  rw [List.getElem?_set, List.getElem?_modify]
  by_cases hij : i = j
  · subst hij
    rw [if_pos rfl, if_pos (List.getElem?_eq_some_iff.mp hw).1, hd]
    simp only [if_true]
    exact .some hnew
  · simp only [if_neg hij]
    rw [id_map']
    exact h j

theorem length_eq_of_rel {α β : Type} {R : Nat → α → β → Prop} {as : List α} {bs : List β}
    (h : ∀ i, Option.Rel (R i) as[i]? bs[i]?) : as.length = bs.length := by
  rcases Nat.lt_trichotomy as.length bs.length with hlt | heq | hlt
  · have hrel := h as.length
    rw [List.getElem?_eq_none (Nat.le_refl _), List.getElem?_eq_getElem hlt] at hrel
    exact nomatch hrel
  · exact heq
  · have hrel := h bs.length
    rw [List.getElem?_eq_none (Nat.le_refl _), List.getElem?_eq_getElem hlt] at hrel
    exact nomatch hrel

theorem rel_append {α β : Type} {R : Nat → α → β → Prop} {as : List α} {bs : List β} {a : α}
    {b : β} (h : ∀ i, Option.Rel (R i) as[i]? bs[i]?) (hab : R as.length a b) :
    ∀ i, Option.Rel (R i) (as ++ [a])[i]? (bs ++ [b])[i]? := by
  intro i
  have hlength := length_eq_of_rel h
  rcases Nat.lt_trichotomy i as.length with hlt | rfl | hlt
  · rw [List.getElem?_append_left hlt, List.getElem?_append_left (hlength ▸ hlt)]
    exact h i
  · rw [List.getElem?_concat_length, hlength, List.getElem?_concat_length]
    exact .some (hlength ▸ hab)
  · have has : (as ++ [a]).length ≤ i := by
      rw [List.length_append, List.length_singleton]
      omega
    have hbs : (bs ++ [b]).length ≤ i := by
      rw [List.length_append, List.length_singleton]
      omega
    rw [List.getElem?_eq_none has, List.getElem?_eq_none hbs]
    exact .none

/-- A write stands for its description when it is made. -/
theorem stands_described {defaults : Options} {i : Nat} {q : Draft} {writing : Writing} {w : Write}
    (h : described (q.query defaults) writing = .ok w) :
    Stands defaults owners i w ⟨q, writing, []⟩ := by
  have hstage := stage_of_described h
  obtain ⟨table, mutation, defaults', base, stage⟩ := w
  cases hstage
  exact ⟨h, rfl⟩

theorem Agrees.describe {name : String} {w : Write} {d : Described}
    (h : s.Agrees c owners polls) (hw : Stands s.defaults owners s.writes.length w d) :
    Agrees { s with
        writes := s.writes ++ [w], handles := s.handles.insert name s.writes.length }
      { c with
        writes := c.writes ++ [d], handles := c.handles.insert name c.writes.length }
      owners polls := by
  have hext : c.Extends { c with
      writes := c.writes ++ [d], handles := c.handles.insert name c.writes.length } :=
    ⟨List.prefix_rfl, fun i e he => ⟨[], by
      rw [getElem?_append_of_eq_some he, List.append_nil]⟩⟩
  exact
  { h with
    handles := by
      show s.handles.insert name s.writes.length = c.handles.insert name c.writes.length
      rw [h.handles, length_eq_of_rel h.writes]
    named := by
      intro other j hj
      rw [SortedMap.get?_insert] at hj
      show j < (s.writes ++ [w]).length
      rw [List.length_append]
      split at hj
      · exact Option.some.inj hj ▸ Nat.lt_succ_self _
      · exact Nat.lt_succ_of_lt (h.named other j hj)
    writes := rel_append h.writes hw
    contents := h.contents_of_extends hext
    flown := h.flown.congr rfl rfl rfl }

/-- What a trigger finds recorded, when it is the first. -/
theorem recorded_of_shows {i : Nat} {recorded : Option Refinement} {stage : Stage}
    (h : Shows owners i (.pending recorded) stage) : stage.recorded = recorded.getD {} := by
  cases recorded with
  | none => cases h; rfl
  | some r => cases h; rfl

/-- A refinement, until the plan is settled, replaces what is recorded. -/
theorem stands_refine {defaults : Options} {i : Nat} {w : Write} {d : Described}
    (h : Stands defaults owners i w d) (r : Refinement) :
    Stands defaults owners i (w.refine r) { d with calls := d.calls ++ [.refine r] } := by
  obtain ⟨hd, hstage⟩ := h
  obtain ⟨table, mutation, defaults, base, stage⟩ := w
  refine ⟨?_, ?_⟩
  · refine hd.trans ?_
    cases stage <;> rfl
  · show Shows owners i (.ofCalls (d.calls ++ [.refine r])) _
    rw [Plan.ofCalls_concat]
    cases hp : Plan.ofCalls d.calls with
    | pending recorded =>
        rw [hp] at hstage
        cases recorded with
        | none => cases hstage; rfl
        | some r' => cases hstage; rfl
    | settled r' =>
        rw [hp] at hstage
        obtain ⟨call, hcall, howner⟩ := hstage
        cases hcall
        exact ⟨call, rfl, howner⟩

theorem exists_of_rel {α β : Type} {R : α → β → Prop} {a : Option α} {b : Option β} {x : α}
    (h : Option.Rel R a b) (ha : a = some x) : ∃ y, b = some y ∧ R x y := by
  subst ha
  cases h with
  | some hxy => exact ⟨_, rfl, hxy⟩

theorem exists_of_rel_right {α β : Type} {R : α → β → Prop} {a : Option α} {b : Option β} {y : β}
    (h : Option.Rel R a b) (hb : b = some y) : ∃ x, a = some x ∧ R x y := by
  subst hb
  cases h with
  | some hxy => exact ⟨_, rfl, hxy⟩

theorem Agrees.ask_refine {i : Nat} {w : Write} (h : s.Agrees c owners polls)
    (hw : s.writes[i]? = some w) (r : Refinement) :
    Agrees { s with writes := s.writes.set i (w.refine r) } (c.ask i (.refine r)) owners polls := by
  obtain ⟨d, hd, hstands⟩ := exists_of_rel (h.writes i) hw
  exact
  { h with
    named := by
      intro name j hj
      show j < (s.writes.set i (w.refine r)).length
      rw [List.length_set]
      exact h.named name j hj
    writes := stands_set h.writes hw hd (stands_refine hstands r)
    contents := h.contents_of_extends (Chronicle.extends_ask c i _)
    flown := h.flown.congr rfl rfl rfl }

/-! ## New calls -/

theorem result?_newCall {i : Nat} {r : Result Json} (h : s.result? i = some r) (request : Request)
    (o : Options) : (s.newCall request o).1.result? i = some r := by
  obtain ⟨p, hp, hr⟩ := Option.bind_eq_some_iff.mp h
  obtain ⟨call, hcall, rfl⟩ := exists_call_of_progress? hp
  rw [result?, progress?, newCall, getElem?_append_of_eq_some hcall]
  exact hr

theorem Stands.append {defaults : Options} {i : Nat} {w : Write} {d : Described}
    (h : Stands defaults owners i w d) (more : List Origin) :
    Stands defaults (owners ++ more) i w d :=
  ⟨h.described, h.stage.append more⟩

/-- A call is noted for an origin that had none; the account says what it sends. -/
theorem Agrees.newCall {origin : Origin} {r : Request} {o : Options} {fetches : List Fetched}
    {ds : List Described} {ws : List Write} (h : s.Agrees c owners polls)
    (hext : c.Extends { c with fetches, writes := ds })
    (hnone : c.sent s.defaults origin = none)
    (hsent : ({ c with fetches, writes := ds } : Chronicle).sent s.defaults origin = some (r, o))
    (hlength : ws.length = s.writes.length)
    (hwrites : ∀ i, Option.Rel (Stands s.defaults (owners ++ [origin]) i) ws[i]? ds[i]?) :
    Agrees { (s.newCall r o).1 with writes := ws } { c with fetches, writes := ds }
      (owners ++ [origin]) polls where
  queries := h.queries
  handles := h.handles
  named name i hi := by
    show i < ws.length
    rw [hlength]
    exact h.named name i hi
  writes := hwrites
  futures name := rel_mono (fun _ _ hf => hf.append [origin]) (h.futures name)
  distinct := by
    refine List.nodup_append.mpr ⟨h.distinct, List.nodup_singleton _, ?_⟩
    intro a ha b hb hab
    -- an origin that has a call has something to send, and this one had nothing
    obtain ⟨content, hcontent⟩ := h.sent_of_mem ha
    rw [hab, List.mem_singleton.mp hb, hnone] at hcontent
    exact nomatch hcontent
  contents := by
    show (s.calls ++ _).map _ = _
    rw [List.map_append, List.map_append, h.contents_of_extends hext]
    exact congrArg (_ ++ [·]) hsent.symm
  flown := (flown_newCall h.flown r o).congr rfl rfl rfl
  polls := h.polls_append [origin]
  yields y hy := by
    obtain ⟨i, result, howner, hr, hview⟩ := h.yields y hy
    exact ⟨i, result, getElem?_append_of_eq_some howner _, result?_newCall hr r o, hview⟩

theorem resolve_shows {i : Nat} {w : Write} {recorded : Option Refinement}
    (h : Shows owners i (.pending recorded) w.stage) (given : Option Refinement) :
    s.resolve i w given =
      let r := Refinement.settledBy recorded given
      ({ (s.newCall (w.requestFor r) (w.options r.options)).1 with
          writes := s.writes.set i { w with stage := .resolved s.calls.length } },
        s.calls.length) := by
  have hpending : ∀ call, w.stage ≠ .resolved call := by
    intro call hcall
    rw [hcall] at h
    cases recorded <;> cases h
  rw [← settle_getD, ← recorded_of_shows h]
  exact resolve_pending hpending i given

/-- A settled write sends what its account says. -/
theorem content_of_stands {defaults : Options} {i : Nat} {w : Write} {d : Described}
    {calls : List HandleCall} {r : Refinement} (h : Stands defaults owners i w d)
    (hplan : Plan.ofCalls calls = .settled r) :
    ({ d with calls } : Described).content defaults
      = some (w.requestFor r, w.options r.options) := by
  rw [Described.content, h.described, hplan]
  rfl

/-- A trigger leaves its write with a call of its own, new or not. -/
theorem Agrees.exists_resolve {i : Nat} {w : Write} (h : s.Agrees c owners polls)
    (hw : s.writes[i]? = some w) (given : Option Refinement) :
    ∃ owners', Agrees (s.resolve i w given).1 (c.ask i (.trigger given)) owners' polls ∧
      owners'[(s.resolve i w given).2]? = some (.write i) := by
  obtain ⟨d, hd, hstands⟩ := exists_of_rel (h.writes i) hw
  have hext := Chronicle.extends_ask c i (.trigger given)
  have hstage := hstands.stage
  cases hp : Plan.ofCalls d.calls with
  | settled r =>
      rw [hp] at hstage
      obtain ⟨call, hcall, howner⟩ := hstage
      rw [resolve_resolved hcall]
      refine ⟨owners, ?_, howner⟩
      have hasked : Stands s.defaults owners i w { d with calls := d.calls ++ [.trigger given] } :=
        ⟨hstands.described, by rw [Plan.ofCalls_append hp]; exact ⟨call, hcall, howner⟩⟩
      -- the session does not touch the write, but the account notes the trigger
      have hwrites : ∀ j, Option.Rel (Stands s.defaults owners j) (s.writes.set i w)[j]?
          (c.ask i (.trigger given)).writes[j]? := stands_set h.writes hw hd hasked
      obtain ⟨hlt, rfl⟩ := List.getElem?_eq_some_iff.mp hw
      rw [List.set_getElem_self hlt] at hwrites
      exact
      { h with
        writes := hwrites
        contents := h.contents_of_extends hext
        flown := h.flown }
  | pending recorded =>
      rw [hp] at hstage
      rw [resolve_shows hstage]
      have hplan : Plan.ofCalls (d.calls ++ [.trigger given])
          = .settled (.settledBy recorded given) := by
        rw [Plan.ofCalls_concat, hp]
        rfl
      refine ⟨owners ++ [.write i], h.newCall hext ?_ ?_ (List.length_set ..) ?_, ?_⟩
      · rw [Chronicle.sent, hd]
        exact Chronicle.content_of_pending hp
      · show Option.bind (c.ask i (.trigger given)).writes[i]? _ = _
        rw [Chronicle.getElem?_ask hd]
        exact content_of_stands hstands hplan
      · refine stands_set (fun j => rel_mono (fun _ _ hs => hs.append _) (h.writes j)) hw hd ?_
        refine ⟨hstands.described, ?_⟩
        rw [hplan]
        exact ⟨s.calls.length, rfl, h.length_owners ▸ List.getElem?_concat_length⟩
      · exact h.length_owners ▸ List.getElem?_concat_length

/-- A fetch has a call of its own. -/
theorem Agrees.fetch {d : Draft} {f : Fetch} (h : s.Agrees c owners polls) :
    let content := Fetched.content ⟨d, f⟩ s.defaults
    Agrees (s.newCall content.1 content.2).1 { c with fetches := c.fetches ++ [⟨d, f⟩] }
      (owners ++ [.fetch c.fetches.length]) polls := by
  show Agrees { (s.newCall _ _).1 with writes := s.writes }
    { c with fetches := c.fetches ++ [⟨d, f⟩], writes := c.writes } _ polls
  refine h.newCall ?_ ?_ ?_ rfl ?_
  · exact ⟨List.prefix_append .., fun i e he => ⟨[], by rw [he, List.append_nil]⟩⟩
  · rw [Chronicle.sent, List.getElem?_eq_none (Nat.le_refl _)]
    rfl
  · rw [Chronicle.sent, List.getElem?_concat_length]
    rfl
  · exact fun i => rel_mono (fun _ _ hs => hs.append _) (h.writes i)

/-! ## Polls and what they yield -/

theorem origins_of_holds {fs : List Future} {hs : List Held}
    (hfs : List.Forall₂ (Holds owners) fs hs) :
    (fs.map Future.call).map (owners[·]?) = (hs.map Held.origin).map some := by
  induction hfs with
  | nil => rfl
  | cons hf _ ih =>
      rw [List.map_cons, List.map_cons, hf.origin, ih]
      rfl

/-- Polls, as often as they are made, of the calls that futures stand for. -/
theorem Agrees.pollAll {fs : List Future} {hs : List Held} (h : s.Agrees c owners polls)
    (calls : List Nat) (hfs : List.Forall₂ (Holds owners) fs hs)
    (hflown : (s.pollAll calls).Flown (polls ++ fs.map Future.call)) :
    (s.pollAll calls).Agrees (c.polled hs) owners (polls ++ fs.map Future.call) := by
  have hsteady := steady_pollAll s calls
  exact
  { queries := by
      intro name
      rw [hsteady.queries, hsteady.defaults]
      exact h.queries name
    handles := hsteady.handles.trans h.handles
    named := by
      intro name i hi
      rw [hsteady.handles] at hi
      rw [hsteady.writes]
      exact h.named name i hi
    writes := by
      intro i
      rw [hsteady.writes, hsteady.defaults]
      exact h.writes i
    futures := by
      intro name
      rw [hsteady.futures]
      exact h.futures name
    distinct := h.distinct
    contents := by
      have hcontents := congrArg (List.map some) hsteady.contents
      rw [List.map_map, List.map_map] at hcontents
      rw [hsteady.defaults]
      exact hcontents.trans h.contents
    flown := hflown
    polls := by
      rw [List.map_append, h.polls, origins_of_holds hfs, Chronicle.polled, List.map_append]
    yields := by
      intro y hy
      obtain ⟨i, r, howner, hr, hview⟩ := h.yields y hy
      exact ⟨i, r, howner, result?_pollAll calls hr, hview⟩ }

theorem Agrees.yield {new : List (Held × Result Json)} (h : s.Agrees c owners polls)
    (hnew : ∀ y ∈ new, s.Yielded owners y) :
    s.Agrees { c with yields := c.yields ++ new } owners polls :=
  { h with
    yields := fun y hy => (List.mem_append.mp hy).elim (h.yields y) (hnew y) }

theorem Agrees.poll {f : Future} {g : Held} (h : s.Agrees c owners polls) (hf : Holds owners f g) :
    (s.pollCall f.call).1.Agrees (c.polled [g]) owners (polls ++ [f.call]) :=
  h.pollAll [f.call] (.cons hf .nil) (flown_pollCall h.flown (h.call_lt hf.origin))

/-- A future that is awaited yields the result of its call. -/
theorem Agrees.await {f : Future} {g : Held} (h : s.Agrees c owners polls)
    (hf : Holds owners f g) :
    ∃ r s', s.awaitCall f.call = (s', some r) ∧
      s'.Agrees ((c.polled [g]).yielded g (.ok (.result (f.view r)))) owners
        (polls ++ [f.call]) := by
  have hlt := h.call_lt hf.origin
  have hagrees : (s.awaitCall f.call).1.Agrees (c.polled [g]) owners (polls ++ [f.call]) := by
    have hflown := flown_awaitCall h.flown hlt
    obtain ⟨k, hk⟩ := exists_pollAll_awaitCall s f.call
    rw [hk] at hflown ⊢
    exact h.pollAll _ (.cons hf .nil) hflown
  obtain ⟨r, hr⟩ := Option.isSome_iff_exists.mp (awaitCall_isSome hlt)
  refine ⟨r, (s.awaitCall f.call).1, Prod.ext rfl hr, hagrees.yield ?_⟩
  intro y hy
  rw [List.mem_singleton.mp hy, hf.view]
  exact ⟨f.call, r, hf.origin, awaitCall_snd hr, rfl⟩

/-- An answer that leaves its caller waiting for nothing: what is awaited has a
result, and a join has one for each of its futures. -/
def Completes : Operation → Except Refusal Outcome → Prop
  | .fetch _ _ none, .ok outcome => ∃ r, outcome = .result r
  | .trigger _ _ none, .ok outcome => ∃ r, outcome = .result r
  | .await _, .ok outcome => ∃ r, outcome = .result r
  | .join names, .ok outcome => ∃ rs, outcome = .results rs ∧ rs.length = names.length
  | _, _ => True

theorem Agrees.awaitOrKeep {f : Future} {g : Held} (h : s.Agrees c owners polls)
    (hf : Holds owners f g) :
    ∀ keep, ∃ polls', (s.awaitOrKeep f keep).1.Agrees
      (c.awaitOrKeep g (.ok (s.awaitOrKeep f keep).2) keep) owners polls' ∧
        (keep = none → ∃ r, (s.awaitOrKeep f keep).2 = .result r)
  | some name => ⟨polls, h.keep hf, nofun⟩
  | none => by
      obtain ⟨r, s', hr, hagrees⟩ := h.await hf
      refine ⟨polls ++ [f.call], ?_⟩
      unfold Session.awaitOrKeep
      rw [hr]
      exact ⟨hagrees, fun _ => ⟨_, rfl⟩⟩

theorem Agrees.future_cases (h : s.Agrees c owners polls) (name : String) :
    (s.futures.get? name = none ∧ c.futures.get? name = none) ∨
      ∃ f g, s.futures.get? name = some f ∧ c.futures.get? name = some g ∧ Holds owners f g := by
  have hrel := h.futures name
  generalize s.futures.get? name = f at hrel
  generalize c.futures.get? name = g at hrel
  cases hrel with
  | none => exact Or.inl ⟨rfl, rfl⟩
  | some hf => exact Or.inr ⟨_, _, rfl, rfl, hf⟩

/-- Futures that are taken out stand for those that the account takes out. -/
theorem Agrees.take (names : List String) (h : s.Agrees c owners polls) :
    (s.takeFutures names).1.Agrees (c.take names).1 owners polls ∧
      Option.Rel (fun fs hs => List.Forall₂ (Holds owners) fs hs ∧ fs.length = names.length)
        (s.takeFutures names).2 (c.take names).2 := by
  induction names generalizing s c with
  | nil => exact ⟨h, .some ⟨.nil, rfl⟩⟩
  | cons name rest ih =>
      rcases h.future_cases name with ⟨hs, hc⟩ | ⟨f, g, hs, hc, hf⟩
      · simp only [takeFutures, Chronicle.take, hs, hc]
        exact ⟨h, .none⟩
      · simp only [takeFutures, Chronicle.take, hs, hc]
        obtain ⟨hagrees, hfs⟩ := ih (h.drop name)
        refine ⟨hagrees, ?_⟩
        generalize (Session.takeFutures _ rest).2 = fs at hfs ⊢
        generalize (Chronicle.take _ rest).2 = gs at hfs ⊢
        cases hfs with
        | none => exact .none
        | some hfs => exact .some ⟨.cons hf hfs.1, congrArg Nat.succ hfs.2⟩

theorem yielded_zip {fs : List Future} {hs : List Held}
    (hfs : List.Forall₂ (Holds owners) fs hs) :
    ∀ {rs : List (Result Json)},
      rs.map some = (fs.map fun f => (s.result? f.call).map f.view) →
        ∀ y ∈ hs.zip rs, s.Yielded owners y := by
  induction hfs with
  | nil => exact fun _ y hy => absurd hy (by simp)
  | @cons f g _ _ hf _ ih =>
      intro rs hrs y hy
      cases rs with
      | nil => exact absurd hy (by simp)
      | cons r rest =>
          obtain ⟨hr, hrest⟩ := List.cons.inj hrs
          rcases List.mem_cons.mp hy with rfl | hy
          · obtain ⟨r', hr', hview⟩ := Option.map_eq_some_iff.mp hr.symm
            exact ⟨f.call, r', hf.origin, hr', by rw [← hf.view, hview]⟩
          · exact ih hrest y hy

/-- The futures of a join yield the results of their calls. -/
theorem Agrees.join {fs : List Future} {hs : List Held} (h : s.Agrees c owners polls)
    (hfs : List.Forall₂ (Holds owners) fs hs) :
    (s.joinCalls fs).1.Agrees ((c.polled hs).joined hs (.ok (.results (s.joinCalls fs).2))) owners
      (polls ++ fs.map Future.call) ∧ (s.joinCalls fs).2.length = fs.length := by
  have hlt : ∀ f ∈ fs, f.call < s.calls.length :=
    ((List.forall₂_and_left fs hs).mp (hfs.imp fun _ _ hf => ⟨h.call_lt hf.origin, hf⟩)).1
  have hagrees : (s.joinCalls fs).1.Agrees (c.polled hs) owners (polls ++ fs.map Future.call) := by
    have hflown := flown_joinCalls h.flown hlt
    obtain ⟨calls, -, hcalls⟩ := exists_pollAll_joinCalls s fs
    rw [hcalls] at hflown ⊢
    exact h.pollAll _ hfs hflown
  have hresults := joinCalls_snd hlt
  refine ⟨hagrees.yield (yielded_zip hfs hresults), ?_⟩
  simpa using congrArg List.length hresults

/-! ## Operations -/

theorem Agrees.query_cases (h : s.Agrees c owners polls) (name : String) :
    (s.queries.get? name = none ∧ c.queries.get? name = none) ∨
      ∃ d, s.queries.get? name = some (d.query s.defaults) ∧ c.queries.get? name = some d := by
  have hq := h.queries name
  cases hc : c.queries.get? name with
  | none => exact Or.inl ⟨by rw [hq, hc]; rfl, rfl⟩
  | some d => exact Or.inr ⟨d, by rw [hq, hc]; rfl, rfl⟩

theorem Agrees.write_cases (h : s.Agrees c owners polls) (handle : String) :
    (s.write? handle = none ∧ c.handles.get? handle = none) ∨
      ∃ i w, s.write? handle = some (i, w) ∧ c.handles.get? handle = some i ∧
        s.writes[i]? = some w := by
  rw [← h.handles]
  cases hi : s.handles.get? handle with
  | none =>
      refine Or.inl ⟨?_, rfl⟩
      simp only [write?, hi, Option.bind_eq_bind, Option.bind_none]
  | some i =>
      have hw := List.getElem?_eq_getElem (h.named handle i hi)
      refine Or.inr ⟨i, _, ?_, rfl, hw⟩
      simp only [write?, hi, hw, Option.bind_eq_bind, Option.bind_some]
      rfl

theorem completes_fetch {name : String} {f : Fetch} {keep : Option String} {outcome : Outcome}
    (h : keep = none → ∃ r, outcome = .result r) :
    Completes (.fetch name f keep) (.ok outcome) := by
  cases keep with
  | none => exact h rfl
  | some _ => trivial

theorem completes_trigger {handle : String} {t : Trigger} {keep : Option String}
    {outcome : Outcome} (h : keep = none → ∃ r, outcome = .result r) :
    Completes (.trigger handle t keep) (.ok outcome) := by
  cases keep with
  | none => exact h rfl
  | some _ => trivial

theorem completes_error {op : Operation} {e : Refusal} : Completes op (.error e) := by
  unfold Completes
  split <;> trivial

/-- An operation keeps the agreement and leaves its caller waiting for nothing. -/
theorem exists_agrees_step (h : s.Agrees c owners polls) (op : Operation) :
    (∃ owners' polls', (s.step op).1.Agrees (c.note op (s.step op).2) owners' polls') ∧
      Completes op (s.step op).2 := by
  cases op with
  | openQuery name table => exact ⟨⟨owners, polls, h.query rfl⟩, trivial⟩
  | cloneQuery name copy =>
      refine ⟨⟨owners, polls, ?_⟩, trivial⟩
      rcases h.query_cases name with ⟨hs, hc⟩ | ⟨d, hs, hc⟩
      · simp only [step, Chronicle.note, hs, hc]
        exact h
      · simp only [step, Chronicle.note, hs, hc]
        exact h.query rfl
  | clause name clause =>
      refine ⟨⟨owners, polls, ?_⟩, trivial⟩
      rcases h.query_cases name with ⟨hs, hc⟩ | ⟨d, hs, hc⟩
      · simp only [step, Chronicle.note, hs, hc]
        exact h
      · simp only [step, Chronicle.note, hs, hc]
        exact h.query (query_concat d clause s.defaults).symm
  | fetch name f keep =>
      rcases h.query_cases name with ⟨hs, hc⟩ | ⟨d, hs, hc⟩
      · simp only [step, Chronicle.note, hs, hc]
        exact ⟨⟨owners, polls, h⟩, completes_error⟩
      · simp only [step, Chronicle.note, hs, hc]
        have hf : Holds (owners ++ [.fetch c.fetches.length]) ⟨s.calls.length, f.single, false⟩
            ⟨.fetch c.fetches.length, f.single, false⟩ :=
          ⟨h.length_owners ▸ List.getElem?_concat_length, rfl, rfl⟩
        obtain ⟨polls', hagrees, hdone⟩ := (h.fetch (d := d) (f := f)).awaitOrKeep hf keep
        exact ⟨⟨_, polls', hagrees⟩, completes_fetch hdone⟩
  | write name w handle =>
      refine ⟨⟨owners, polls, ?_⟩, trivial⟩
      rcases h.query_cases name with ⟨hs, hc⟩ | ⟨d, hs, hc⟩
      · simp only [step, Chronicle.note, hs, hc]
        exact h
      · cases hd : described (d.query s.defaults) w with
        | error e =>
            simp only [step, Chronicle.note, hs, hc, hd]
            exact h
        | ok v =>
            simp only [step, Chronicle.note, hs, hc, hd]
            exact h.describe (stands_described hd)
  | cloneHandle handle copy =>
      refine ⟨⟨owners, polls, ?_⟩, trivial⟩
      have hc : c.handles.get? handle = s.handles.get? handle := by rw [h.handles]
      cases hi : s.handles.get? handle with
      | none =>
          simp only [step, Chronicle.note, hc, hi]
          exact h
      | some i =>
          simp only [step, Chronicle.note, hc, hi]
          exact h.handle (h.named handle i hi)
  | refine handle r =>
      refine ⟨⟨owners, polls, ?_⟩, trivial⟩
      rcases h.write_cases handle with ⟨hs, hc⟩ | ⟨i, w, hs, hc, hw⟩
      · simp only [step, Chronicle.note, hs, hc]
        exact h
      · simp only [step, Chronicle.note, hs, hc]
        exact h.ask_refine hw r
  | trigger handle t keep =>
      rcases h.write_cases handle with ⟨hs, hc⟩ | ⟨i, w, hs, hc, hw⟩
      · simp only [step, Chronicle.note, hs, hc]
        exact ⟨⟨owners, polls, h⟩, completes_error⟩
      · simp only [step, Chronicle.note, hs, hc]
        obtain ⟨owners', hresolved, howner⟩ := h.exists_resolve hw t.refinement
        have hf : Holds owners' ⟨(s.resolve i w t.refinement).2, t.single, !t.single⟩
            ⟨.write i, t.single, !t.single⟩ := ⟨howner, rfl, rfl⟩
        obtain ⟨polls', hagrees, hdone⟩ := hresolved.awaitOrKeep hf keep
        exact ⟨⟨owners', polls', hagrees⟩, completes_trigger hdone⟩
  | cloneFuture name copy =>
      refine ⟨⟨owners, polls, ?_⟩, trivial⟩
      rcases h.future_cases name with ⟨hs, hc⟩ | ⟨f, g, hs, hc, hf⟩
      · simp only [step, Chronicle.note, hs, hc]
        exact h
      · simp only [step, Chronicle.note, hs, hc, hf.shared]
        cases g.shared with
        | true => exact h.keep hf
        | false => exact h
  | await name =>
      rcases h.future_cases name with ⟨hs, hc⟩ | ⟨f, g, hs, hc, hf⟩
      · simp only [step, Chronicle.note, hs, hc]
        exact ⟨⟨owners, polls, h⟩, completes_error⟩
      · simp only [step, Chronicle.note, hs, hc]
        obtain ⟨polls', hagrees, hdone⟩ := (h.drop name).awaitOrKeep hf none
        exact ⟨⟨owners, polls', hagrees⟩, hdone rfl⟩
  | poll name =>
      refine ⟨?_, trivial⟩
      rcases h.future_cases name with ⟨hs, hc⟩ | ⟨f, g, hs, hc, hf⟩
      · simp only [step, Chronicle.note, hs, hc]
        exact ⟨owners, polls, h⟩
      · have hpolled := h.poll hf
        have hresult := pollCall_snd s f.call
        simp only [step, Chronicle.note, hs, hc]
        rcases hp : s.pollCall f.call with ⟨s', _ | r⟩
        · rw [hp] at hpolled
          exact ⟨owners, _, hpolled⟩
        · rw [hp] at hpolled hresult
          refine ⟨owners, _, (hpolled.drop name).yield ?_⟩
          intro y hy
          rw [List.mem_singleton.mp hy, hf.view]
          exact ⟨f.call, r, hf.origin, hresult.symm, rfl⟩
  | drop name =>
      refine ⟨⟨owners, polls, ?_⟩, trivial⟩
      rcases h.future_cases name with ⟨hs, hc⟩ | ⟨f, g, hs, hc, -⟩
      · simp only [step, Chronicle.note, hs, hc]
        exact h
      · simp only [step, Chronicle.note, hs, hc]
        exact h.drop name
  | join names =>
      obtain ⟨htaken, hrel⟩ := Agrees.take names h
      simp only [step, Chronicle.note]
      generalize s.takeFutures names = taken at htaken hrel ⊢
      generalize c.take names = noted at htaken hrel ⊢
      obtain ⟨s', fs⟩ := taken
      obtain ⟨c', hs⟩ := noted
      cases hrel with
      | none => exact ⟨⟨owners, polls, htaken⟩, trivial⟩
      | some hfs =>
          obtain ⟨hagrees, hlength⟩ := htaken.join hfs.1
          exact ⟨⟨owners, _, hagrees⟩, _, rfl, hlength.trans hfs.2⟩

/-! ## Runs -/

theorem exists_agrees_run (ops : List Operation) (h : s.Agrees c owners polls) :
    (∃ owners' polls', (s.run ops).Agrees ((s.trace ops).foldl (fun c e => c.note e.1 e.2) c)
      owners' polls') ∧ ∀ e ∈ s.trace ops, Completes e.1 e.2 := by
  induction ops generalizing s c owners polls with
  | nil => exact ⟨⟨owners, polls, h⟩, fun e he => absurd he List.not_mem_nil⟩
  | cons op rest ih =>
      obtain ⟨⟨owners', polls', hstep⟩, hdone⟩ := exists_agrees_step h op
      obtain ⟨hrun, hrest⟩ := ih hstep
      refine ⟨hrun, ?_⟩
      intro e he
      rcases List.mem_cons.mp he with rfl | he
      · exact hdone
      · exact hrest e he

theorem agrees_start (t : Transport σ τ) (surroundings : σ) (defaults : Options) :
    (start t.recorded (surroundings, {}) defaults).Agrees {} [] [] where
  queries _ := rfl
  handles := rfl
  named _ _ hi := nomatch hi
  writes _ := .none
  futures _ := .none
  distinct := List.nodup_nil
  contents := rfl
  flown := ⟨⟨t, rfl⟩, rfl, List.nodup_nil, nofun, nofun⟩
  polls := rfl
  yields _ hy := absurd hy List.not_mem_nil

/-! ## What agreement says of the traffic -/

/-- The order in which requests were received is the order of first polls. -/
theorem Agrees.flights (h : s.Agrees c owners polls) :
    polls.eraseDups.map (owners[·]?) = c.flights.map some := by
  have hthere : ∀ i ∈ polls, ∃ o, owners[i]? = some o := by
    intro i hi
    have hmem : owners[i]? ∈ c.polls.map some := h.polls ▸ List.mem_map_of_mem hi
    obtain ⟨o, -, ho⟩ := List.mem_map.mp hmem
    exact ⟨o, ho.symm⟩
  have hinj : ∀ i ∈ polls, ∀ j ∈ polls, owners[i]? = owners[j]? → i = j := by
    intro i hi j _ hij
    obtain ⟨o, ho⟩ := hthere i hi
    exact (List.getElem?_inj (List.getElem?_eq_some_iff.mp ho).1 h.distinct).mp hij
  rw [← eraseDups_map_of_injOn hinj, h.polls]
  exact eraseDups_map_of_injOn fun a _ b _ hab => Option.some.inj hab

theorem Agrees.content_of_call (h : s.Agrees c owners polls) (i : Nat) :
    s.calls[i]?.map Call.content = owners[i]?.bind (c.sent s.defaults) := by
  have hi := congrArg (fun l => l[i]?.join) h.contents
  simp only [List.getElem?_map] at hi
  cases hc : s.calls[i]? <;> cases ho : owners[i]? <;> rw [hc, ho] at hi <;> exact hi

/-- What was received is what the account says was to be sent. -/
theorem Agrees.received (h : s.Agrees c owners polls) :
    s.surroundings.2.received.map some = c.flights.map (c.sent s.defaults) := by
  have hflights := congrArg (List.map (Option.bind · (c.sent s.defaults))) h.flights
  rw [List.map_map, List.map_map] at hflights
  refine h.flown.received.trans (.trans (List.map_congr_left ?_) hflights)
  intro i _
  exact h.content_of_call i

/-- What a future yielded is its view of the response to the request of its origin. -/
theorem Agrees.answered {y : Held × Result Json} (h : s.Agrees c owners polls)
    (hy : y ∈ c.yields) :
    ∃ k response, c.flights[k]? = some y.1.origin ∧
      (k, response) ∈ s.surroundings.2.answered ∧ y.2 = y.1.view (.ofResponse response) := by
  obtain ⟨i, r, howner, hr, hview⟩ := h.yields y hy
  obtain ⟨p, hp, hfinished⟩ := Option.bind_eq_some_iff.mp hr
  cases p with
  | unsent => exact nomatch hfinished
  | waiting ticket left => exact nomatch hfinished
  | finished r' =>
      cases hfinished
      obtain ⟨k, response, hk, hmem, rfl⟩ := h.flown.calls i _ hp
      refine ⟨k, response, ?_, hmem, hview⟩
      have hflight := congrArg (·[k]?) h.flights
      simp only [List.getElem?_map, hk, Option.map_some, howner] at hflight
      obtain ⟨o, ho, hsome⟩ := Option.map_eq_some_iff.mp hflight.symm
      rw [ho, Option.some.inj hsome]

end

end Session

end TableGateway
