/-
Descriptions: what a write takes from its query.

A write is described on the table of its query and with the client's options.
An insert takes nothing else of the query; an update or a delete takes the
conditions that are gathered by then (`exists_mutation_of_described`,
`described_read`).
-/
import TableGateway.Session

namespace TableGateway

/-! ## What a write reads -/

namespace Writing

/-- The options that a write is described with. -/
def options : Writing → Options
  | insert _ o => o
  | upsert _ _ _ o => o
  | update _ o => o
  | delete _ o => o

/-- The query with nothing but what a write reads of it: for an insert the table,
for an update or a delete the conditions too. -/
def read (w : Writing) (q : Query) : Query :=
  match w with
  | insert .. | upsert .. => .fresh q.table q.defaults
  | update .. | delete .. => { Query.fresh q.table q.defaults with conditions := q.conditions }

/-- The conditions that a write takes from its query. -/
def conditions? (w : Writing) (q : Query) : Option (List Condition) :=
  match w with
  | insert .. | upsert .. => none
  | update .. | delete .. => Payload.conditions? q.conditions

end Writing

def Mutation.conditions? : Mutation → Option (List Condition)
  | insert _ => none
  | upsert .. => none
  | update _ conditions => conditions
  | delete _ conditions => conditions

/-- The conditions that a request carries. -/
def Request.conditions? : Request → Option (List Condition)
  | fetch p => p.conditions
  | insert _ => none
  | update p => p.conditions
  | delete p => p.conditions

theorem conditions?_request (m : Mutation) (table : String) (columns : Columns) (o : Options) :
    (m.request table columns o).conditions? = m.conditions? := by
  cases m <;> rfl

namespace Session

/-- What a write does not read of its query does not matter. -/
theorem described_read (q : Query) (w : Writing) : described (w.read q) w = described q w := by
  cases w <;> rfl

/-- A write is described on the table and with the options of its query. -/
theorem exists_mutation_of_described {q : Query} {writing : Writing} {w : Write}
    (h : described q writing = .ok w) :
    ∃ m, w = q.write m writing.options ∧ m.conditions? = writing.conditions? q := by
  cases writing with
  | insert values o | update values o | upsert values updateBody onConflict o =>
      simp only [described] at h
      cases hv : described.json values with
      | error e => rw [hv] at h; exact nomatch h
      | ok v => rw [hv] at h; cases h; exact ⟨_, rfl, rfl⟩
  | delete id o =>
      simp only [described, Query.delete] at h
      split at h
      · exact nomatch h
      · cases h; exact ⟨_, rfl, rfl⟩

section

variable {σ τ : Type}

/-- A write that is refused changes nothing. -/
theorem step_write_error {s : Session σ τ} {name : String} {q : Query} {writing : Writing}
    {e : Error} (hq : s.queries.get? name = some q) (he : described q writing = .error e)
    (handle : String) : s.step (.write name writing handle) = (s, .error (.error e)) := by
  simp only [step, hq, he]

theorem step_write_ok {s : Session σ τ} {name : String} {q : Query} {writing : Writing}
    {w : Write} (hq : s.queries.get? name = some q) (hw : described q writing = .ok w)
    (handle : String) : (s.step (.write name writing handle)).2 = .ok .done := by
  simp only [step, hq, hw]

end

/-- A write starts with nothing recorded. -/
theorem stage_of_described {q : Query} {writing : Writing} {w : Write}
    (h : described q writing = .ok w) : w.stage = .unrefined := by
  obtain ⟨m, rfl, -⟩ := exists_mutation_of_described h
  rfl

end Session

/-! ## What clauses leave alone -/

namespace Query

theorem table_foldl_apply (clauses : List Clause) (q : Query) :
    (clauses.foldl apply q).table = q.table := by
  induction clauses generalizing q with
  | nil => rfl
  | cons c rest ih =>
      refine (ih (q.apply c)).trans ?_
      cases c <;> rfl

theorem defaults_foldl_apply (clauses : List Clause) (q : Query) :
    (clauses.foldl apply q).defaults = q.defaults := by
  induction clauses generalizing q with
  | nil => rfl
  | cons c rest ih =>
      refine (ih (q.apply c)).trans ?_
      cases c <;> rfl

end Query

end TableGateway
