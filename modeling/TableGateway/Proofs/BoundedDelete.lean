/-
Deletes: none is unbounded.

A delete needs an id or a filter.  The row that it names is the one given with
it, or else that of the first equality on a column of ids, and that equality
decides even when it has no value and a later one has (`Names`).  Without
either the delete is refused, which leaves no trace; any other delete reaches
the transport with a row or with conditions, whatever refinement it is set off
with (`bounded_delete`).
-/
import TableGateway.Proofs.Clauses

namespace TableGateway

open Session

variable {σ τ : Type}

/-! ## The row that a delete names -/

namespace Condition

/-- An equality on one of the columns that hold the ids of rows. -/
def OnRowId (c : Condition) : Prop :=
  c.operator = .eq ∧ (c.column = some "resource_id" ∨ c.column = some "id")

theorem targetsResource_iff (c : Condition) : c.targetsResource = true ↔ c.OnRowId := by
  simp only [targetsResource, OnRowId, Bool.and_eq_true, Bool.or_eq_true, decide_eq_true_eq]

theorem not_targetsResource_iff (c : Condition) : (!c.targetsResource) = true ↔ ¬c.OnRowId := by
  rw [Bool.not_eq_true', ← Bool.not_eq_true, targetsResource_iff]

/-- The id that an equality on a row id has: no value and the value null are none. -/
theorem resourceId?_of_onRowId {c : Condition} (h : c.OnRowId) :
    c.resourceId? = (c.value.filter (· ≠ .scalar .null)).map ConditionValue.display := by
  rw [resourceId?, if_pos ((targetsResource_iff c).mpr h)]
  cases c.value with
  | none => rfl
  | some v =>
      cases v with
      | scalar s => cases s <;> rfl
      | list items | expr e => rfl

end Condition

/-- The row that a delete names, given the id that comes with it and the filters
of its query. -/
inductive Names (given : Option String) (cs : List Condition) : Option String → Prop where
  /-- The id that comes with it, unless that is empty. -/
  | given {id : String} (h : given = some id) (hne : id ≠ "") : Names given cs (some id)
  /-- The value of the first equality on a row id. -/
  | first {earlier later : List Condition} {c : Condition} {v : ConditionValue}
      (h : given = none ∨ given = some "") (hcs : cs = earlier ++ c :: later)
      (hearlier : ∀ e ∈ earlier, ¬e.OnRowId) (hc : c.OnRowId)
      (hv : c.value = some v) (hne : v ≠ .scalar .null) : Names given cs (some v.display)
  /-- None, when that equality has no value. -/
  | valueless {earlier later : List Condition} {c : Condition}
      (h : given = none ∨ given = some "") (hcs : cs = earlier ++ c :: later)
      (hearlier : ∀ e ∈ earlier, ¬e.OnRowId) (hc : c.OnRowId)
      (hv : c.value = none ∨ c.value = some (.scalar .null)) : Names given cs none
  /-- None, when there is no such equality. -/
  | unnamed (h : given = none ∨ given = some "") (hcs : ∀ c ∈ cs, ¬c.OnRowId) :
      Names given cs none

theorem filter_nonEmpty_eq_none_iff (given : Option String) :
    given.filter (· ≠ "") = none ↔ given = none ∨ given = some "" := by
  cases given with
  | none => simp
  | some id => simp [Option.filter_some]

namespace Query

/-- The first equality on a row id is the one that is found. -/
theorem find?_targetsResource {earlier later : List Condition} {c : Condition}
    (hearlier : ∀ e ∈ earlier, ¬e.OnRowId) (hc : c.OnRowId) :
    (earlier ++ c :: later).find? Condition.targetsResource = some c := by
  refine List.find?_eq_some_iff_append.mpr
    ⟨(Condition.targetsResource_iff c).mpr hc, earlier, later, rfl, ?_⟩
  intro e he
  exact (Condition.not_targetsResource_iff e).mpr (hearlier e he)

/-- Each delete names what is looked up for it. -/
theorem names_deletedId? (q : Query) (given : Option String) :
    Names given q.conditions (q.deletedId? given) := by
  unfold deletedId?
  cases hgiven : given.filter (· ≠ "") with
  | some id =>
      obtain ⟨h, hne⟩ := Option.filter_eq_some_iff.mp hgiven
      exact .given h (of_decide_eq_true hne)
  | none =>
      have hblank := (filter_nonEmpty_eq_none_iff given).mp hgiven
      rw [Option.none_or]
      cases hfind : q.conditions.find? Condition.targetsResource with
      | none =>
          refine .unnamed hblank ?_
          intro c hc hrow
          exact List.find?_eq_none.mp hfind c hc ((Condition.targetsResource_iff c).mpr hrow)
      | some c =>
          obtain ⟨htargets, earlier, later, hcs, hearlier⟩ :=
            List.find?_eq_some_iff_append.mp hfind
          have hc := (Condition.targetsResource_iff c).mp htargets
          have hnone : ∀ e ∈ earlier, ¬e.OnRowId := fun e he =>
            (Condition.not_targetsResource_iff e).mp (hearlier e he)
          rw [Option.bind_some, Condition.resourceId?_of_onRowId hc]
          cases hv : c.value with
          | none => exact .valueless hblank hcs hnone hc (Or.inl hv)
          | some v =>
              by_cases hnull : v = .scalar .null
              · subst hnull
                exact .valueless hblank hcs hnone hc (Or.inr hv)
              · rw [Option.filter_some, if_pos (decide_eq_true hnull)]
                exact .first hblank hcs hnone hc hv hnull

/-- So it names nothing else. -/
theorem names_iff (q : Query) (given id : Option String) :
    Names given q.conditions id ↔ q.deletedId? given = id := by
  refine ⟨?_, fun h => h ▸ names_deletedId? q given⟩
  intro h
  unfold deletedId?
  cases h with
  | given h hne =>
      rw [h, Option.filter_some, if_pos (decide_eq_true hne)]
      rfl
  | first h hcs hearlier hc hv hne =>
      rw [(filter_nonEmpty_eq_none_iff given).mpr h, hcs, find?_targetsResource hearlier hc,
        Option.none_or, Option.bind_some, Condition.resourceId?_of_onRowId hc, hv,
        Option.filter_some, if_pos (decide_eq_true hne)]
      rfl
  | valueless h hcs hearlier hc hv =>
      rw [(filter_nonEmpty_eq_none_iff given).mpr h, hcs, find?_targetsResource hearlier hc,
        Option.none_or, Option.bind_some, Condition.resourceId?_of_onRowId hc]
      rcases hv with hv | hv <;> rw [hv] <;> rfl
  | unnamed h hcs =>
      have hnone : q.conditions.find? Condition.targetsResource = none :=
        List.find?_eq_none.mpr fun c hc htargets =>
          hcs c hc ((Condition.targetsResource_iff c).mp htargets)
      rw [(filter_nonEmpty_eq_none_iff given).mpr h, hnone]
      rfl

end Query

/-! ## What a delete sends -/

namespace Payload

/-- The body of a delete on a table with these filters: a row, or conditions that
are not empty; all filters in order, and no list at all when there are none. -/
structure Delete.Bounded (p : Delete) (table : String) (given : Option String)
    (cs : List Condition) (r : Refinement) : Prop where
  bounded : p.resourceId ≠ none ∨ ∃ c rest, p.conditions = some (c :: rest)
  row : ∀ id, p.resourceId = id ↔ Names given cs id
  conditions : p.conditions = if cs = [] then none else some cs
  table : p.tableName = table
  columns : p.columns = some r.columns

end Payload

namespace Query

/-- A delete is unbounded when nothing comes with it and nothing is filtered. -/
theorem unbounded_iff (q : Query) (given : Option String) :
    (q.deletedId? given = none ∧ q.conditions = [])
      ↔ (given = none ∨ given = some "") ∧ q.conditions = [] := by
  refine and_congr_left fun hcs => ?_
  unfold deletedId?
  rw [hcs, List.find?_nil, Option.bind_none, Option.or_none]
  exact filter_nonEmpty_eq_none_iff given

theorem delete_of_unbounded {q : Query} {given : Option String}
    (h : (given = none ∨ given = some "") ∧ q.conditions = []) (o : Options) :
    q.delete given o = .error .unboundedDelete :=
  if_pos ((unbounded_iff q given).mpr h)

theorem exists_delete {q : Query} {given : Option String}
    (h : ¬((given = none ∨ given = some "") ∧ q.conditions = [])) (o : Options) :
    ∃ w, q.delete given o = .ok w :=
  ⟨_, if_neg (mt (unbounded_iff q given).mp h)⟩

/-- A delete that is not refused is bounded under every refinement. -/
theorem bounded_of_delete {q : Query} {given : Option String} {o : Options} {w : Write}
    (hw : q.delete given o = .ok w) (r : Refinement) :
    ∃ p, w.requestFor r = .delete p ∧ p.Bounded q.table given q.conditions r := by
  have hbounded : ¬(q.deletedId? given = none ∧ q.conditions = []) := by
    intro h
    cases (if_pos h).symm.trans hw
  cases (if_neg hbounded).symm.trans hw
  refine ⟨_, rfl, ?_⟩
  exact
  { bounded := by
      by_cases hid : q.deletedId? given = none
      · right
        obtain ⟨c, rest, hcs⟩ := List.exists_cons_of_ne_nil fun hcs => hbounded ⟨hid, hcs⟩
        exact ⟨c, rest, congrArg Payload.conditions? hcs⟩
      · exact Or.inl hid
    row := fun id => (names_iff q given id).symm
    conditions := Payload.conditions?_eq q.conditions
    table := rfl
    columns := rfl }

end Query

/-! ## Deletes in a run -/

namespace Session

/-- A write that is refused leaves the record of the run as it would be without it. -/
theorem traffic_write_error (t : Transport σ τ) (surroundings : σ) (defaults : Options)
    (before after : List Operation) {name : String} {q : Query} {writing : Writing} {e : Error}
    (hq : ((start t surroundings defaults).run before).queries.get? name = some q)
    (he : described q writing = .error e) (handle : String) :
    traffic t surroundings defaults (before ++ .write name writing handle :: after)
      = traffic t surroundings defaults (before ++ after) := by
  rw [run_observed] at hq
  have hstep := step_write_error (s := (observed t surroundings defaults).run before) hq he handle
  unfold traffic
  rw [run_append, run_append]
  show (Session.run ((((observed t surroundings defaults).run before).step
    (.write name writing handle)).1) after).surroundings.2 = _
  rw [hstep]

/-- Of a delete on any query of any run: it is refused, as a request that is not
valid, exactly when neither an id nor a filter bounds it, and then the session
stays as it is and nothing is sent; any other delete has a handle, and what the
transport receives for it is bounded. -/
theorem bounded_delete (t : Transport σ τ) (surroundings : σ) (defaults : Options)
    (before after : List Operation) (name handle : String) (given : Option String) (o : Options)
    (q : Query) (hq : ((start t surroundings defaults).run before).queries.get? name = some q) :
    let s := (start t surroundings defaults).run before
    let op := Operation.write name (.delete given o) handle
    let n := ((start t surroundings defaults).account before).writes.length
    let ops := before ++ op :: after
    let c := (start t surroundings defaults).account ops
    ((∃ refusal, (s.step op).2 = .error refusal)
      ↔ (given = none ∨ given = some "") ∧ q.conditions = []) ∧
    (∀ refusal, (s.step op).2 = .error refusal →
      refusal = .error .unboundedDelete ∧ Error.unboundedDelete.isValidation = true ∧
      (s.step op).1 = s ∧
      traffic t surroundings defaults ops = traffic t surroundings defaults (before ++ after)) ∧
    ∀ outcome, (s.step op).2 = .ok outcome →
      ∃ w, described q (.delete given o) = .ok w ∧
        (∀ r, ∃ p, w.requestFor r = .delete p ∧ p.Bounded q.table given q.conditions r) ∧
        (.write n ∈ c.polls → ∃ d r p options, c.writes[n]? = some d ∧
          Plan.ofCalls d.calls = .settled r ∧
          c.request? (traffic t surroundings defaults ops) (.write n) = some (.delete p, options) ∧
          p.Bounded q.table given q.conditions r) := by
  intro s op n ops c
  by_cases h : (given = none ∨ given = some "") ∧ q.conditions = []
  · have he : described q (.delete given o) = .error .unboundedDelete :=
      Query.delete_of_unbounded h o
    have hstep := step_write_error hq he handle
    refine ⟨⟨fun _ => h, fun _ => ⟨_, congrArg Prod.snd hstep⟩⟩, ?refused, ?accepted⟩
    case refused =>
      intro refusal hrefusal
      rw [hstep] at hrefusal
      cases hrefusal
      refine ⟨rfl, rfl, congrArg Prod.fst hstep, ?_⟩
      exact traffic_write_error t surroundings defaults before after hq he handle
    case accepted =>
      intro outcome houtcome
      rw [hstep] at houtcome
      cases houtcome
  · obtain ⟨w, hdelete⟩ := Query.exists_delete h o
    have hw : described q (.delete given o) = .ok w := hdelete
    have hbounded := Query.bounded_of_delete hdelete
    have hanswer := step_write_ok hq hw handle
    refine ⟨⟨?_, fun hblank => absurd hblank h⟩, ?refused, ?accepted⟩
    · rintro ⟨refusal, hrefusal⟩
      rw [hanswer] at hrefusal
      cases hrefusal
    case refused =>
      intro refusal hrefusal
      rw [hanswer] at hrefusal
      cases hrefusal
    case accepted =>
      intro outcome _
      refine ⟨w, hw, hbounded, ?_⟩
      intro hpolled
      obtain ⟨d, r, hd, hplan, hrequest⟩ :=
        request?_write t surroundings defaults before after handle hq hw hpolled
      obtain ⟨p, hp, hrow⟩ := hbounded r
      exact ⟨d, r, p, w.options r.options, hd, hplan, hp ▸ hrequest, hrow⟩

/-- Only a delete is sent as one. -/
theorem exists_delete_of_requestFor {q : Query} {writing : Writing} {w : Write} {r : Refinement}
    {p : Payload.Delete} (hw : described q writing = .ok w) (hp : w.requestFor r = .delete p) :
    ∃ given o, writing = .delete given o := by
  cases writing with
  | insert values o | update values o | upsert values updateBody onConflict o =>
      simp only [described] at hw
      cases hv : described.json values with
      | error e =>
          rw [hv] at hw
          cases hw
      | ok v =>
          rw [hv] at hw
          cases hw
          cases hp
  | delete given o => exact ⟨given, o, rfl⟩

/-- A delete that a transport receives in any run is that of a handle that was described
as one. -/
theorem exists_described_of_received (t : Transport σ τ) (surroundings : σ) (defaults : Options)
    (ops : List Operation) {p : Payload.Delete} {options : Options}
    (hreceived : (.delete p, options) ∈ (traffic t surroundings defaults ops).received) :
    let c := (start t surroundings defaults).account ops
    ∃ n d given o w r, c.writes[n]? = some d ∧ d.writing = .delete given o ∧
      c.request? (traffic t surroundings defaults ops) (.write n) = some (.delete p, options) ∧
      (d.draft.query defaults).delete given o = .ok w ∧ w.requestFor r = .delete p := by
  intro c
  obtain ⟨owners, polls, h⟩ := exists_agrees_account t surroundings defaults ops
  obtain ⟨origin, hsent, hrequest⟩ := h.exists_origin hreceived
  rw [defaults_observed] at hsent
  cases origin with
  | fetch n =>
      obtain ⟨f, -, hcontent⟩ := Option.map_eq_some_iff.mp hsent
      exact nomatch hcontent
  | write n =>
      obtain ⟨d, hd, hcontent⟩ := Option.bind_eq_some_iff.mp hsent
      obtain ⟨w, r, hw, -, hdue⟩ := Chronicle.content_eq_some_iff.mp hcontent
      have hp : w.requestFor r = .delete p := congrArg Prod.fst hdue.symm
      obtain ⟨given, o, hwriting⟩ := exists_delete_of_requestFor hw hp
      rw [hwriting] at hw
      exact ⟨n, d, given, o, w, r, hd, hwriting, hrequest, hw, hp⟩

/-- No delete that a transport receives in any run is unbounded. -/
theorem bounded_of_received (t : Transport σ τ) (surroundings : σ) (defaults : Options)
    (ops : List Operation) {p : Payload.Delete} {options : Options}
    (hreceived : (.delete p, options) ∈ (traffic t surroundings defaults ops).received) :
    p.resourceId ≠ none ∨ ∃ c rest, p.conditions = some (c :: rest) := by
  obtain ⟨n, d, given, o, w, r, -, -, -, hw, hp⟩ :=
    exists_described_of_received t surroundings defaults ops hreceived
  obtain ⟨p', hp', hbounded⟩ := Query.bounded_of_delete hw r
  cases hp'.symm.trans hp
  exact hbounded.bounded

/-- Two filters on row ids, of which the first has no value. -/
def valuelessUsers : List Operation :=
  [.openQuery "users" "users", .clause "users" (.filter (.eq "resource_id" .null)),
    .clause "users" (.filter (.eq "id" (.int 7)))]

/-- The delete names no row; both filters bound it. -/
theorem bounded_delete_valuelessUsers :
    let ops := valuelessUsers ++ .write "users" (.delete (some "") {}) "handle"
      :: [.trigger "handle" {} none]
    ∃ p options, ((start Script.transport {} {}).account ops).request?
        (traffic Script.transport {} {} ops) (.write 0) = some (.delete p, options) ∧
      p.resourceId = none ∧
      p.conditions = some [.eq "resource_id" .null, .eq "id" (.int 7)] := by
  obtain ⟨-, -, haccepted⟩ := bounded_delete Script.transport {} {} valuelessUsers
    [.trigger "handle" {} none] "users" "handle" (some "") {} _ rfl
  obtain ⟨w, -, -, hsent⟩ := haccepted .done rfl
  obtain ⟨d, r, p, options, -, -, hrequest, hbounded⟩ := hsent (by decide)
  have hcs : [Condition.eq "resource_id" .null, .eq "id" (.int 7)]
      = [] ++ .eq "resource_id" .null :: [.eq "id" (.int 7)] := rfl
  have hrow : Names (some "") [.eq "resource_id" .null, .eq "id" (.int 7)] none :=
    .valueless (Or.inr rfl) hcs (fun _ he => absurd he List.not_mem_nil) ⟨rfl, Or.inl rfl⟩
      (Or.inr rfl)
  exact ⟨p, options, hrequest, (hbounded.row none).mpr hrow, hbounded.conditions⟩

end Session

end TableGateway
