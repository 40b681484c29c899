/-
Clauses: what a chain of clauses leaves in a query.

A reset forgets every clause before it, so a query is what the clauses since the
last reset make of a fresh one (`foldl_apply_sinceReset`).  Among these each
field has what the last clause that writes it wrote, and the conditions are those
of the filters, one after the other (`shows_payload`).  `chain_law` says so of
the queries of any run: to open such a query again and to add only the clauses
since its reset changes nothing at all.
-/
import Mathlib.Data.List.DropRight
import TableGateway.Proofs.LastSet
import TableGateway.Proofs.Snapshot

namespace TableGateway

open Session

variable {σ τ : Type}

/-! ## What clauses write -/

namespace Clause

def isReset : Clause → Bool
  | reset => true
  | _ => false

theorem eq_reset {c : Clause} (h : c.isReset = true) : c = reset := by
  cases c with
  | reset => rfl
  | _ => exact nomatch h

/-- The clauses after the last reset. -/
def sinceReset (clauses : List Clause) : List Clause :=
  clauses.rtakeWhile fun c => !c.isReset

/-- The number of rows of a range can be counted without overflow. -/
def Fits : Clause → Prop
  | range first last =>
      -0x8000000000000000 ≤ last.toInt - first.toInt ∧
        last.toInt - first.toInt + 1 < 0x8000000000000000
  | _ => True

/-- What a clause adds to the conditions and writes into the other fields; a
field that is `none` is left as it was. -/
structure Effect where
  conditions : List Condition := []
  limit : Option Int := none
  offset : Option Int64 := none
  view : Option String := none
  groupBy : Option String := none
  granularity : Option Granularity := none
  currentPage : Option Int64 := none
  pageSize : Option Int64 := none
  totalPages : Option Int64 := none
  aggregationColumn : Option String := none
  aggregation : Option Aggregation := none
  aggregationDedup : Option Bool := none

/-- The effect of a clause.  The limit of a range is such that the last row is
the one at `offset + limit - 1`. -/
def effect : Clause → Effect
  | filter c => { conditions := [c] }
  | matchAll pairs => { conditions := pairs.map fun p => ⟨some p.1, .eq, some (.scalar p.2)⟩ }
  | range first last =>
      { offset := some first, limit := some (last.toInt + 1 - first.toInt) }
  | limit n => { limit := some n.toInt }
  | offset n => { offset := some n }
  | view name => { view := some name }
  | groupBy column => { groupBy := some column }
  | granularity g => { granularity := some g }
  | page current size => { currentPage := some current, pageSize := some size }
  | totalPages n => { totalPages := some n }
  | aggregate column a => { aggregationColumn := some column, aggregation := some a }
  | aggregationDedup b => { aggregationDedup := some b }
  | reset => {}

theorem toInt_rangeLimit {first last : Int64} (h : (range first last).Fits) :
    (last - first + 1).toInt = last.toInt + 1 - first.toInt := by
  obtain ⟨hlower, hupper⟩ := h
  have hsub : (last - first).toInt = last.toInt - first.toInt := by
    rw [Int64.toInt_sub]
    exact Int.bmod_eq_of_le (by omega) (by omega)
  rw [Int64.toInt_add, hsub, Int64.toInt_one, Int.bmod_eq_of_le (by omega) (by omega)]
  omega

namespace Effect

/-- One effect after another. -/
def followedBy (e later : Effect) : Effect where
  conditions := e.conditions ++ later.conditions
  limit := later.limit.or e.limit
  offset := later.offset.or e.offset
  view := later.view.or e.view
  groupBy := later.groupBy.or e.groupBy
  granularity := later.granularity.or e.granularity
  currentPage := later.currentPage.or e.currentPage
  pageSize := later.pageSize.or e.pageSize
  totalPages := later.totalPages.or e.totalPages
  aggregationColumn := later.aggregationColumn.or e.aggregationColumn
  aggregation := later.aggregation.or e.aggregation
  aggregationDedup := later.aggregationDedup.or e.aggregationDedup

/-- Several effects, one after the other. -/
def all (effects : List Effect) : Effect := effects.foldl followedBy {}

theorem all_concat (effects : List Effect) (e : Effect) :
    all (effects ++ [e]) = (all effects).followedBy e :=
  List.foldl_concat ..

/-- A field that each effect writes over is in the end as the last one wrote it. -/
theorem field_all {α : Type} {field : Effect → Option α} (hnone : field {} = none)
    (hafter : ∀ e later, field (followedBy e later) = (field later).or (field e))
    (effects : List Effect) : field (all effects) = lastSet field effects := by
  rw [all, field_foldl hafter, hnone, Option.or_none]

theorem conditions_all (effects : List Effect) :
    (all effects).conditions = effects.flatMap conditions := by
  induction effects using List.reverseRecOn with
  | nil => rfl
  | append_singleton effects e ih =>
      rw [all_concat, List.flatMap_append, List.flatMap_singleton, ← ih]
      rfl

end Effect

end Clause

/-! ## What is gathered in a query -/

namespace Query

open Clause (Effect)

/-- What the clauses of a query wrote. -/
def gathered (q : Query) : Effect where
  conditions := q.conditions
  limit := q.limit.map Int64.toInt
  offset := q.offset
  view := q.view
  groupBy := q.groupBy
  granularity := q.granularity
  currentPage := q.currentPage
  pageSize := q.pageSize
  totalPages := q.totalPages
  aggregationColumn := q.aggregationColumn
  aggregation := q.aggregation
  aggregationDedup := q.aggregationDedup

theorem gathered_apply (q : Query) {c : Clause} (hfits : c.Fits) (hc : c.isReset = false) :
    (q.apply c).gathered = q.gathered.followedBy c.effect := by
  cases c with
  | reset => exact nomatch hc
  | range first last =>
      simp only [gathered, apply, Clause.effect, Effect.followedBy, Option.map_some,
        Clause.toInt_rangeLimit hfits, List.append_nil, Option.some_or, Option.none_or]
  | _ =>
      simp only [gathered, apply, Clause.effect, Effect.followedBy, Condition.eq,
        Condition.compare, Option.map_some, List.append_nil, Option.some_or, Option.none_or]

theorem gathered_foldl_apply (table : String) (defaults : Options) {clauses : List Clause}
    (h : ∀ c ∈ clauses, c.Fits ∧ c.isReset = false) :
    (clauses.foldl apply (.fresh table defaults)).gathered
      = Effect.all (clauses.map Clause.effect) := by
  induction clauses using List.reverseRecOn with
  | nil => rfl
  | append_singleton clauses c ih =>
      obtain ⟨hfits, hc⟩ := h c (List.mem_append_right _ List.mem_cons_self)
      rw [List.foldl_concat, gathered_apply _ hfits hc, List.map_append, List.map_singleton,
        Effect.all_concat, ih fun c hmem => h c (List.mem_append_left _ hmem)]

/-- Only the clauses since the last reset count. -/
theorem foldl_apply_sinceReset (table : String) (defaults : Options) (clauses : List Clause) :
    (Clause.sinceReset clauses).foldl apply (.fresh table defaults)
      = clauses.foldl apply (.fresh table defaults) := by
  induction clauses using List.reverseRecOn with
  | nil => rfl
  | append_singleton clauses c ih =>
      unfold Clause.sinceReset at ih ⊢
      rw [List.foldl_concat]
      cases hc : c.isReset with
      | false => rw [List.rtakeWhile_concat_pos _ _ _ (by rw [hc]; rfl), List.foldl_concat, ih]
      | true =>
          rw [List.rtakeWhile_concat_neg _ _ _ (by rw [hc]; exact Bool.false_ne_true),
            Clause.eq_reset hc, apply, table_foldl_apply, defaults_foldl_apply]
          rfl

end Query

namespace Payload

theorem conditions?_eq (cs : List Condition) :
    conditions? cs = if cs = [] then none else some cs := by
  cases cs <;> rfl

/-- The body of a fetch shows what clauses with these effects wrote: all their
conditions in order, none at all when there are no conditions, and of every other
field what was written last, nothing when nothing was. -/
structure Fetch.Shows (p : Fetch) (effects : List Clause.Effect) : Prop where
  conditions : p.conditions
    = let cs := effects.flatMap Clause.Effect.conditions
      if cs = [] then none else some cs
  limit : p.limit.map Int64.toInt = lastSet Clause.Effect.limit effects
  offset : p.offset = lastSet Clause.Effect.offset effects
  view : p.viewName = lastSet Clause.Effect.view effects
  groupBy : p.groupBy = lastSet Clause.Effect.groupBy effects
  granularity : p.granularity = lastSet Clause.Effect.granularity effects
  currentPage : p.currentPage = lastSet Clause.Effect.currentPage effects
  pageSize : p.pageSize = lastSet Clause.Effect.pageSize effects
  totalPages : p.totalPages = lastSet Clause.Effect.totalPages effects
  aggregationColumn : p.aggregationColumn = lastSet Clause.Effect.aggregationColumn effects
  aggregation : p.aggregation = lastSet Clause.Effect.aggregation effects
  aggregationDedup : p.aggregationDedup = lastSet Clause.Effect.aggregationDedup effects

end Payload

theorem Query.shows_payload {q : Query} {effects : List Clause.Effect}
    (h : q.gathered = Clause.Effect.all effects) (columns : Columns) (merged : Options) :
    (q.payload columns merged).Shows effects := by
  have field {α : Type} (f : Clause.Effect → Option α) (hnone : f {} = none)
      (hafter : ∀ e later, f (.followedBy e later) = (f later).or (f e)) :
      f q.gathered = lastSet f effects := by
    rw [h, Clause.Effect.field_all hnone hafter]
  exact
  { conditions := by
      show Payload.conditions? q.gathered.conditions = _
      rw [Payload.conditions?_eq, h, Clause.Effect.conditions_all]
    limit := field Clause.Effect.limit rfl fun _ _ => rfl
    offset := field Clause.Effect.offset rfl fun _ _ => rfl
    view := field Clause.Effect.view rfl fun _ _ => rfl
    groupBy := field Clause.Effect.groupBy rfl fun _ _ => rfl
    granularity := field Clause.Effect.granularity rfl fun _ _ => rfl
    currentPage := field Clause.Effect.currentPage rfl fun _ _ => rfl
    pageSize := field Clause.Effect.pageSize rfl fun _ _ => rfl
    totalPages := field Clause.Effect.totalPages rfl fun _ _ => rfl
    aggregationColumn := field Clause.Effect.aggregationColumn rfl fun _ _ => rfl
    aggregation := field Clause.Effect.aggregation rfl fun _ _ => rfl
    aggregationDedup := field Clause.Effect.aggregationDedup rfl fun _ _ => rfl }

/-! ## Chains in a run -/

namespace Session

theorem run_clauses {s : Session σ τ} {name : String} {q : Query}
    (hq : s.queries.get? name = some q) (clauses : List Clause) :
    s.run (clauses.map (.clause name))
      = { s with queries := s.queries.insert name (clauses.foldl Query.apply q) } := by
  induction clauses generalizing s q with
  | nil =>
      show s = { s with queries := s.queries.insert name q }
      rw [SortedMap.insert_eq_self hq]
  | cons c rest ih =>
      have hstep : (s.step (.clause name c)).1
          = { s with queries := s.queries.insert name (q.apply c) } := by
        simp only [step, hq]
      have hbound : (s.queries.insert name (q.apply c)).get? name = some (q.apply c) := by
        rw [SortedMap.get?_insert, if_pos rfl]
      show (s.step (.clause name c)).1.run (rest.map (.clause name)) = _
      rw [hstep, ih hbound, SortedMap.insert_insert]
      rfl

/-- To put a query together again is to change nothing. -/
theorem run_rebuild {s : Session σ τ} {name table : String} {clauses : List Clause}
    (h : s.queries.get? name = some (clauses.foldl Query.apply (.fresh table s.defaults))) :
    s.run (.openQuery name table :: clauses.map (.clause name)) = s := by
  have hopen : (s.queries.insert name (.fresh table s.defaults)).get? name
      = some (.fresh table s.defaults) := by
    rw [SortedMap.get?_insert, if_pos rfl]
  show Session.run { s with queries := s.queries.insert name (.fresh table s.defaults) }
    (clauses.map (.clause name)) = s
  rw [run_clauses hopen]
  show { s with queries := _ } = s
  rw [SortedMap.insert_insert, SortedMap.insert_eq_self h]

/-- Of any query of any run, put together from whatever clauses: to open it anew
and to add only the clauses after its last reset leaves the session as it is, so
all that is done with it from then on goes alike; it is the query that those
clauses make of a fresh one; every fetch of it shows what they wrote, and every
update and delete carries their conditions. -/
theorem chain_law (t : Transport σ τ) (surroundings : σ) (defaults : Options)
    (ops : List Operation) (name : String) (d : Draft)
    (hd : ((start t surroundings defaults).account ops).queries.get? name = some d)
    (hfits : ∀ c ∈ Clause.sinceReset d.clauses, c.Fits) :
    let s := (start t surroundings defaults).run ops
    let post := Clause.sinceReset d.clauses
    let effects := post.map Clause.effect
    s.run (.openQuery name d.table :: post.map (.clause name)) = s ∧
    ∃ q, s.queries.get? name = some q ∧ q = post.foldl Query.apply (.fresh d.table defaults) ∧
      (∀ columns merged, let p := q.payload columns merged
        p.tableName = some d.table ∧ p.columns = some columns ∧ p.Shows effects) ∧
      ∀ writing w r, (∃ values o, writing = .update values o) ∨ (∃ id o, writing = .delete id o) →
        described q writing = .ok w →
          (w.requestFor r).conditions? =
            let cs := effects.flatMap Clause.Effect.conditions
            if cs = [] then none else some cs := by
  intro s post effects
  have hquery := get?_queries_account t surroundings defaults ops hd
  have hq : d.query defaults = post.foldl Query.apply (.fresh d.table defaults) :=
    (Query.foldl_apply_sinceReset d.table defaults d.clauses).symm
  have hgathered : (d.query defaults).gathered = Clause.Effect.all effects := by
    rw [hq]
    refine Query.gathered_foldl_apply d.table defaults fun c hc => ⟨hfits c hc, ?_⟩
    simpa using List.mem_rtakeWhile_imp hc
  refine ⟨?_, d.query defaults, hquery, hq, ?_, ?_⟩
  · refine run_rebuild ?_
    rw [defaults_run]
    exact hquery.trans (congrArg some hq)
  · intro columns merged
    refine ⟨congrArg some ?_, rfl, Query.shows_payload hgathered columns merged⟩
    exact Draft.query_table d defaults
  · rintro writing w r hwriting hw
    obtain ⟨m, rfl, hm⟩ := exists_mutation_of_described hw
    have hcarried : writing.conditions? (d.query defaults)
        = Payload.conditions? (d.query defaults).gathered.conditions := by
      rcases hwriting with ⟨values, o, rfl⟩ | ⟨id, o, rfl⟩ <;> rfl
    refine (conditions?_request ..).trans (hm.trans ?_)
    rw [hcarried, Payload.conditions?_eq, hgathered, Clause.Effect.conditions_all]

/-- A query that is paged after a reset; its limit was written before it, too. -/
def pagedUsers : List Operation :=
  (.openQuery "users" "users") ::
    [.filter (.eq "name" (.text "Ada")), .limit 5, .view "recent", .reset,
      .matchAll [("role", .text "admin"), ("active", .bool true)], .offset 3,
      .range 10 19].map (.clause "users")

/-- It shows the range and the filters that came after the reset. -/
theorem chain_pagedUsers :
    ∃ q, ((start Script.transport {} {}).run pagedUsers).queries.get? "users" = some q ∧
      (let p := q.payload .all {}
       p.limit.map Int64.toInt = some 10 ∧ p.offset = some 10 ∧ p.viewName = none ∧
         p.conditions = some [.eq "role" (.text "admin"), .eq "active" (.bool true)]) ∧
      ∃ w, described q (.delete none {}) = .ok w ∧
        (w.requestFor {}).conditions?
          = some [.eq "role" (.text "admin"), .eq "active" (.bool true)] := by
  have hfits : ∀ c ∈ [Clause.matchAll [("role", .text "admin"), ("active", .bool true)],
      .offset 3, .range 10 19], c.Fits := by
    simp [Clause.Fits]
  obtain ⟨-, q, hq, -, hfetch, hwrite⟩ :=
    chain_law Script.transport {} {} pagedUsers "users" ⟨"users", _⟩ rfl hfits
  obtain ⟨-, -, hshows⟩ := hfetch .all {}
  refine ⟨q, hq, ⟨hshows.limit, hshows.offset, hshows.view, hshows.conditions⟩, ?_⟩
  cases hq
  exact ⟨_, rfl, hwrite (.delete none {}) _ {} (Or.inr ⟨none, {}, rfl⟩) rfl⟩

end Session

end TableGateway
