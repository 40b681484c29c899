/-
Snapshots: what is sent depends on a query as it was, and on no other object.

A fetch sends the payload of its query at the moment of the fetch, an update or
delete the conditions of its query at the moment its handle was made, and an
insert nothing of what its query gathered.  Only the operations that put queries
together change any query, and they change the one that they name
(`get?_queries_step`); so a query and its copy go on as two queries that have
the same clauses behind them (`get?_queries_run`).  `snapshot_isolation` says
all of this of whole runs.
-/
import TableGateway.Proofs.FirstTrigger

namespace TableGateway

open Session

variable {σ τ : Type}

/-! ## Which operations change which queries -/

namespace Operation

/-- The operation binds the name to another query. -/
def Rebinds (name : String) : Operation → Prop
  | openQuery other _ => other = name
  | cloneQuery _ copy => copy = name
  | _ => False

/-- The clause that the operation adds to the query of this name. -/
def clauseOf? (name : String) : Operation → Option Clause
  | clause other c => if other = name then some c else none
  | _ => none

end Operation

namespace Session

theorem keeps_queries {op : Operation} (h : ¬op.Shapes) (queries : SortedMap Query) :
    Keeps op fun s : Session σ τ => s.queries = queries where
  query _ _ _ hop _ := absurd hop h
  describe _ _ _ h := h
  handle _ _ _ h := h
  refine _ _ _ _ _ h := h
  call _ _ _ h := h
  resolve _ _ _ _ _ h := h
  keep _ _ _ h := h
  take _ _ h := h
  poll s i h := (steady_pollCall s i).queries.trans h

/-- No terminal, trigger or await changes a query. -/
theorem queries_step {op : Operation} (h : ¬op.Shapes) (s : Session σ τ) :
    (s.step op).1.queries = s.queries :=
  step_induction (keeps_queries h s.queries) rfl

/-- An operation adds its clause to the query that it names and leaves the others alone. -/
theorem get?_queries_step {s : Session σ τ} {op : Operation} {name : String} {q : Query}
    (hq : s.queries.get? name = some q) (h : ¬op.Rebinds name) :
    (s.step op).1.queries.get? name = some ((op.clauseOf? name).toList.foldl Query.apply q) := by
  by_cases hop : op.Shapes
  · cases op with
    | openQuery other table =>
        show (s.queries.insert other _).get? name = _
        rw [SortedMap.get?_insert, if_neg (Ne.symm h)]
        exact hq
    | cloneQuery other copy =>
        simp only [step]
        cases s.queries.get? other with
        | none => exact hq
        | some q' =>
            show (s.queries.insert copy q').get? name = _
            rw [SortedMap.get?_insert, if_neg (Ne.symm h)]
            exact hq
    | clause other c =>
        by_cases hname : other = name
        · subst hname
          simp only [step, hq, SortedMap.get?_insert, Operation.clauseOf?, if_true]
          rfl
        · simp only [step, Operation.clauseOf?, if_neg hname]
          cases s.queries.get? other with
          | none => exact hq
          | some q' =>
              show (s.queries.insert other (q'.apply c)).get? name = _
              rw [SortedMap.get?_insert, if_neg (Ne.symm hname)]
              exact hq
    | _ => exact hop.elim
  · rw [queries_step hop, hq]
    cases op with
    | clause other c => exact absurd trivial hop
    | _ => rfl

/-- A query becomes what the clauses added to it make of it, whatever else happens. -/
theorem get?_queries_run {ops : List Operation} {s : Session σ τ} {name : String} {q : Query}
    (hq : s.queries.get? name = some q) (h : ∀ op ∈ ops, ¬op.Rebinds name) :
    (s.run ops).queries.get? name
      = some ((ops.filterMap (·.clauseOf? name)).foldl Query.apply q) := by
  induction ops generalizing s q with
  | nil => exact hq
  | cons op rest ih =>
      have hstep := get?_queries_step hq (h op List.mem_cons_self)
      refine (ih hstep fun o ho => h o (List.mem_cons_of_mem _ ho)).trans ?_
      cases hc : op.clauseOf? name with
      | none => rw [List.filterMap_cons_none hc]; rfl
      | some c => rw [List.filterMap_cons_some hc]; rfl

end Session

/-! ## What is kept of a query -/

namespace Chronicle

/-- A fetch is noted with its query as it is. -/
theorem getElem?_note_fetch {c : Chronicle} {name : String} {d : Draft}
    (hd : c.queries.get? name = some d) (f : Fetch) (keep : Option String)
    (answer : Except Refusal Outcome) :
    (c.note (.fetch name f keep) answer).fetches[c.fetches.length]? = some ⟨d, f⟩ := by
  simp only [note, hd]
  exact (extends_awaitOrKeep _ _ answer keep).fetch List.getElem?_concat_length

/-- So is a write that is not refused, and its handle has been asked nothing yet. -/
theorem getElem?_note_write {c : Chronicle} {name : String} {d : Draft}
    (hd : c.queries.get? name = some d) (writing : Writing) (handle : String) (outcome : Outcome) :
    (c.note (.write name writing handle) (.ok outcome)).writes[c.writes.length]?
      = some ⟨d, writing, []⟩ := by
  simp only [note, hd]
  exact List.getElem?_concat_length

end Chronicle

namespace Session

theorem Agrees.exists_draft {s : Session (σ × Traffic) (τ × Nat)} {c : Chronicle}
    {owners : List Origin} {polls : List Nat} {name : String} {q : Query}
    (h : s.Agrees c owners polls) (hq : s.queries.get? name = some q) :
    ∃ d, c.queries.get? name = some d ∧ q = d.query s.defaults := by
  rcases h.query_cases name with ⟨hs, -⟩ | ⟨d, hs, hc⟩
  · exact nomatch hs.symm.trans hq
  · exact ⟨d, hc, Option.some.inj (hq.symm.trans hs)⟩

/-- Of a query and its copy each has what the query had. -/
theorem get?_step_cloneQuery {s : Session σ τ} {name copy one : String} {q : Query}
    (hq : s.queries.get? name = some q) (hone : one ∈ [name, copy]) :
    (s.step (.cloneQuery name copy)).1.queries.get? one = some q := by
  simp only [step, hq, SortedMap.get?_insert]
  split
  case isTrue => rfl
  case isFalse hne =>
    rcases List.mem_cons.mp hone with rfl | hone
    · exact hq
    · exact absurd (List.mem_singleton.mp hone) hne

section

variable (t : Transport σ τ) (surroundings : σ) (defaults : Options) (before after : List Operation)

/-- An account goes on from what it notes of an operation. -/
theorem extends_account_cons (op : Operation) :
    (((start t surroundings defaults).account before).note op
        (((start t surroundings defaults).run before).step op).2).Extends
      ((start t surroundings defaults).account (before ++ op :: after)) := by
  have hext := extends_account (start t surroundings defaults) (before ++ [op]) after
  rwa [account_concat, ← List.append_cons] at hext

/-- Every query of a run is put together from what the account has for it. -/
theorem exists_draft_run {name : String} {q : Query}
    (hq : ((start t surroundings defaults).run before).queries.get? name = some q) :
    ∃ d, ((start t surroundings defaults).account before).queries.get? name = some d ∧
      q = d.query defaults := by
  obtain ⟨owners, polls, h⟩ := exists_agrees_account t surroundings defaults before
  rw [run_observed] at hq
  obtain ⟨d, hd, heq⟩ := h.exists_draft hq
  rw [defaults_observed] at heq
  exact ⟨d, hd, heq⟩

/-- The query of a run is what the clauses added to it, by whatever name and to
whatever it was copied from, make of a fresh one. -/
theorem get?_queries_account {name : String} {d : Draft}
    (hd : ((start t surroundings defaults).account before).queries.get? name = some d) :
    ((start t surroundings defaults).run before).queries.get? name = some (d.query defaults) := by
  obtain ⟨owners, polls, h⟩ := exists_agrees_account t surroundings defaults before
  rw [run_observed]
  refine (h.queries name).trans ?_
  rw [hd, defaults_observed]
  rfl

/-- A fetch that is polled at some time sends the payload of its query at the time
of the fetch. -/
theorem request?_fetch {name : String} {q : Query} (f : Fetch) (keep : Option String)
    (hq : ((start t surroundings defaults).run before).queries.get? name = some q) :
    let n := ((start t surroundings defaults).account before).fetches.length
    let ops := before ++ .fetch name f keep :: after
    .fetch n ∈ ((start t surroundings defaults).account ops).polls →
      ((start t surroundings defaults).account ops).request?
          (traffic t surroundings defaults ops) (.fetch n)
        = some (.fetch (q.fetchPayload f.columns f.options), q.options f.options) := by
  intro n ops hpolled
  obtain ⟨d, hd, rfl⟩ := exists_draft_run t surroundings defaults before hq
  have hext := extends_account_cons t surroundings defaults before after (.fetch name f keep)
  have hfetch := hext.fetch (Chronicle.getElem?_note_fetch hd f keep _)
  obtain ⟨owners, polls, h⟩ := exists_agrees_account t surroundings defaults ops
  obtain ⟨content, hsent, hrequest⟩ := h.exists_request hpolled
  rw [defaults_observed, Chronicle.sent, hfetch] at hsent
  exact hrequest.trans hsent.symm

/-- A handle that is polled at some time sends what its write was described with,
under the refinement that was settled. -/
theorem request?_write {name : String} {q : Query} {writing : Writing} {w : Write}
    (handle : String)
    (hq : ((start t surroundings defaults).run before).queries.get? name = some q)
    (hw : described q writing = .ok w) :
    let n := ((start t surroundings defaults).account before).writes.length
    let ops := before ++ .write name writing handle :: after
    .write n ∈ ((start t surroundings defaults).account ops).polls →
      ∃ d r, ((start t surroundings defaults).account ops).writes[n]? = some d ∧
        Plan.ofCalls d.calls = .settled r ∧
        ((start t surroundings defaults).account ops).request?
            (traffic t surroundings defaults ops) (.write n)
          = some (w.requestFor r, w.options r.options) := by
  intro n ops hpolled
  have hanswer := step_write_ok hq hw handle
  have hext := extends_account_cons t surroundings defaults before after
    (.write name writing handle)
  obtain ⟨d, hd, rfl⟩ := exists_draft_run t surroundings defaults before hq
  rw [hanswer] at hext
  obtain ⟨more, hmore⟩ := hext.writes _ _ (Chronicle.getElem?_note_write hd writing handle .done)
  obtain ⟨owners, polls, h⟩ := exists_agrees_account t surroundings defaults ops
  obtain ⟨content, hsent, hrequest⟩ := h.exists_request hpolled
  rw [defaults_observed, Chronicle.sent, hmore, Option.bind_some] at hsent
  obtain ⟨w', r, hw', hplan, rfl⟩ := Chronicle.content_eq_some_iff.mp hsent
  cases hw'.symm.trans hw
  exact ⟨_, r, hmore, hplan, hrequest⟩

/-- A query and its copy both go on from what they have in common. -/
theorem get?_run_cloneQuery {name copy one : String} {d : Draft}
    (hd : ((start t surroundings defaults).account before).queries.get? name = some d)
    (hone : one ∈ [name, copy]) (hafter : ∀ o ∈ after, ¬o.Rebinds one) :
    let ops := before ++ .cloneQuery name copy :: after
    ((start t surroundings defaults).run ops).queries.get? one
      = some ((d.clauses ++ after.filterMap (·.clauseOf? one)).foldl Query.apply
          (.fresh d.table defaults)) := by
  intro ops
  have hq := get?_queries_account t surroundings defaults before hd
  rw [show ops = _ from List.append_cons .., run_append, run_append, List.foldl_append]
  exact get?_queries_run (get?_step_cloneQuery hq hone) hafter

end

/-- Of an operation in the midst of any run: a fetch sends the payload of its
query as it is then; a handle sends what its write is described with then, of
which an insert takes no more than the table and an update or a delete no more
than the conditions besides; no query changes but by the operations that put
queries together; and a query and its copy are from then on what the clauses
before the copy and those added to each make of it. -/
theorem snapshot_isolation (t : Transport σ τ) (surroundings : σ) (defaults : Options)
    (before : List Operation) (op : Operation) (after : List Operation) :
    let s := (start t surroundings defaults).run before
    let c := (start t surroundings defaults).account before
    let c' := (start t surroundings defaults).account (before ++ op :: after)
    let traffic := traffic t surroundings defaults (before ++ op :: after)
    (∀ name f keep q, op = .fetch name f keep → s.queries.get? name = some q →
      .fetch c.fetches.length ∈ c'.polls →
        c'.request? traffic (.fetch c.fetches.length)
          = some (.fetch (q.fetchPayload f.columns f.options), q.options f.options)) ∧
    (∀ name writing handle q, op = .write name writing handle → s.queries.get? name = some q →
      described (writing.read q) writing = described q writing ∧
      ∀ w, described q writing = .ok w → .write c.writes.length ∈ c'.polls →
        ∃ d r, c'.writes[c.writes.length]? = some d ∧ Plan.ofCalls d.calls = .settled r ∧
          c'.request? traffic (.write c.writes.length)
            = some (w.requestFor r, w.options r.options) ∧
          (w.requestFor r).conditions? = writing.conditions? q) ∧
    (¬op.Shapes → (s.step op).1.queries = s.queries) ∧
    ∀ name copy d, op = .cloneQuery name copy → c.queries.get? name = some d →
      ∀ one ∈ [name, copy], (∀ o ∈ after, ¬o.Rebinds one) →
        ((start t surroundings defaults).run (before ++ op :: after)).queries.get? one
          = some ((d.clauses ++ after.filterMap (·.clauseOf? one)).foldl Query.apply
              (.fresh d.table defaults)) := by
  refine ⟨?fetch, ?write, fun hop => queries_step hop _, ?clone⟩
  case fetch =>
    rintro name f keep q rfl hq
    exact request?_fetch t surroundings defaults before after f keep hq
  case write =>
    rintro name writing handle q rfl hq
    refine ⟨described_read q writing, ?_⟩
    intro w hw hpolled
    obtain ⟨d, r, hd, hplan, hrequest⟩ :=
      request?_write t surroundings defaults before after handle hq hw hpolled
    obtain ⟨m, rfl, hm⟩ := exists_mutation_of_described hw
    exact ⟨d, r, hd, hplan, hrequest, (conditions?_request ..).trans hm⟩
  case clone =>
    rintro name copy d rfl hd one hone hafter
    exact get?_run_cloneQuery t surroundings defaults before after hd hone hafter

/-- A query with a filter. -/
def filteredUsers : List Operation :=
  [.openQuery "users" "users", .clause "users" (.filter (.eq "name" (.text "Ada")))]

/-- An update of what the query selects. -/
def updateUsers : Operation :=
  .write "users" (.update (.map [(.text "active", .bool true)]) {}) "handle"

/-- An insert next to it. -/
def insertUser : Operation :=
  .write "users" (.insert (.map [(.text "name", .text "Eve")]) {}) "handle"

/-- The query is reset before the write is set off. -/
def resetAndExecute : List Operation := [.clause "users" .reset, .trigger "handle" {} none]

/-- A fetch that is not polled yet. -/
def parkedFetch : Operation := .fetch "users" {} (some "rows")

/-- The query is reset before the fetch is polled. -/
def resetAndAwait : List Operation := [.clause "users" .reset, .await "rows"]

/-- The copy gets a limit and the query is reset. -/
def limitAndReset : List Operation := [.clause "copy" (.limit 1), .clause "users" .reset]

/-- The conditions of the request for an origin in a run. -/
def conditionsSent? (ops : List Operation) (o : Origin) : Option (Option (List Condition)) :=
  (((start Script.transport {} {}).account ops).request? (traffic Script.transport {} {} ops) o).map
    fun content => content.1.conditions?

/-- The update and the fetch still carry the filter, and the insert has no use for it; the
fetch leaves the query as it is; and the query and its copy go on apart from each other. -/
theorem snapshot_filteredUsers :
    let kept : List Condition := [.eq "name" (.text "Ada")]
    let s := (start Script.transport {} {}).run filteredUsers
    let s' := (start Script.transport {} {}).run
      (filteredUsers ++ .cloneQuery "users" "copy" :: limitAndReset)
    conditionsSent? (filteredUsers ++ updateUsers :: resetAndExecute) (.write 0) = some (some kept) ∧
    conditionsSent? (filteredUsers ++ insertUser :: resetAndExecute) (.write 0) = some none ∧
    conditionsSent? (filteredUsers ++ parkedFetch :: resetAndAwait) (.fetch 0) = some (some kept) ∧
    (s.step parkedFetch).1.queries = s.queries ∧
    (∃ q, s'.queries.get? "users" = some q ∧ q.conditions = [] ∧ q.limit = none) ∧
      ∃ q, s'.queries.get? "copy" = some q ∧ q.conditions = kept ∧ q.limit = some 1 := by
  intro kept s s'
  obtain ⟨-, hupdate, -⟩ :=
    snapshot_isolation Script.transport {} {} filteredUsers updateUsers resetAndExecute
  obtain ⟨-, hinsert, -⟩ :=
    snapshot_isolation Script.transport {} {} filteredUsers insertUser resetAndExecute
  obtain ⟨hfetch, -, hqueries, -⟩ :=
    snapshot_isolation Script.transport {} {} filteredUsers parkedFetch resetAndAwait
  obtain ⟨-, -, -, hclone⟩ :=
    snapshot_isolation Script.transport {} {} filteredUsers (.cloneQuery "users" "copy") limitAndReset
  have hkept : ∀ one, ∀ o ∈ limitAndReset, ¬o.Rebinds one := by
    simp [limitAndReset, Operation.Rebinds]
  refine ⟨?update, ?insert, ?fetch, hqueries id, ?users, ?copy⟩
  case update =>
    obtain ⟨-, hsent⟩ := hupdate "users" _ "handle" _ rfl rfl
    obtain ⟨d, r, -, -, hrequest, hconditions⟩ := hsent _ rfl (by decide)
    have hcontent := congrArg (Option.map fun content => content.1.conditions?) hrequest
    exact hcontent.trans (congrArg some hconditions)
  case insert =>
    obtain ⟨-, hsent⟩ := hinsert "users" _ "handle" _ rfl rfl
    obtain ⟨d, r, -, -, hrequest, hconditions⟩ := hsent _ rfl (by decide)
    have hcontent := congrArg (Option.map fun content => content.1.conditions?) hrequest
    exact hcontent.trans (congrArg some hconditions)
  case fetch =>
    have hrequest := hfetch "users" {} (some "rows") _ rfl rfl (by decide)
    exact congrArg (Option.map fun content => content.1.conditions?) hrequest
  case users =>
    exact ⟨_, hclone "users" "copy" _ rfl rfl "users" (by decide) (hkept _), rfl, rfl⟩
  case copy =>
    exact ⟨_, hclone "users" "copy" _ rfl rfl "copy" (by decide) (hkept _), rfl, rfl⟩

end Session

end TableGateway
