/-
Veils: options of which a part is hidden.

A `Veil` hides a part of options that plays no part in what is merged into them
and in what is read of them for the body of a request.  Queries, writes and
operations have options inside, and seen through a veil they do what they do
without it: merging (`Veil.hide_mergeAll`), clauses (`Veil.apply_query`),
refinements (`Veil.refine_write`) and descriptions of writes
(`Veil.described_query`) pass through it, and the requests are the same
(`Veil.payload_query`, `Veil.requestFor_write`).
-/
import TableGateway.Session

namespace TableGateway

/-- A way to hide a part of options. -/
structure Veil where
  hide : Options → Options
  hide_empty : hide {} = {}
  hide_merge : ∀ base later : Options, hide (base.merge later) = (hide base).merge (hide later)
  stripNulls : ∀ o, (hide o).stripNulls = o.stripNulls
  count : ∀ o, (hide o).count = o.count
  head : ∀ o, (hide o).head = o.head
  defaultToNull : ∀ o, (hide o).defaultToNull = o.defaultToNull

namespace Veil

/-- Nothing is hidden. -/
def clear : Veil where
  hide := id
  hide_empty := rfl
  hide_merge _ _ := rfl
  stripNulls _ := rfl
  count _ := rfl
  head _ := rfl
  defaultToNull _ := rfl

variable (v : Veil)

/-! ## What has options inside -/

def query (q : Query) : Query := { q with defaults := v.hide q.defaults }

def refinement (r : Refinement) : Refinement := { r with options := r.options.map v.hide }

def stage : Stage → Stage
  | .unrefined => .unrefined
  | .refined r => .refined (v.refinement r)
  | .resolved call => .resolved call

def write (w : Write) : Write :=
  { w with
    defaults := v.hide w.defaults
    base := v.hide w.base
    stage := v.stage w.stage }

def fetch (f : Fetch) : Fetch := { f with options := f.options.map v.hide }

def trigger (t : Trigger) : Trigger := { t with refinement := t.refinement.map v.refinement }

def writing : Writing → Writing
  | .insert values o => .insert values (v.hide o)
  | .upsert values updateBody onConflict o => .upsert values updateBody onConflict (v.hide o)
  | .update values o => .update values (v.hide o)
  | .delete resourceId o => .delete resourceId (v.hide o)

/-- An operation with its options seen through the veil. -/
def operation : Operation → Operation
  | .fetch name f keep => .fetch name (v.fetch f) keep
  | .write name w handle => .write name (v.writing w) handle
  | .refine handle r => .refine handle (v.refinement r)
  | .trigger handle t keep => .trigger handle (v.trigger t) keep
  | .openQuery name table => .openQuery name table
  | .cloneQuery name copy => .cloneQuery name copy
  | .clause name c => .clause name c
  | .cloneHandle handle copy => .cloneHandle handle copy
  | .cloneFuture future copy => .cloneFuture future copy
  | .await future => .await future
  | .poll future => .poll future
  | .drop future => .drop future
  | .join futures => .join futures

/-! ## Without anything hidden -/

theorem refinement_clear (r : Refinement) : clear.refinement r = r := by
  obtain ⟨columns, options⟩ := r
  cases options <;> rfl

theorem write_clear (w : Write) : clear.write w = w := by
  obtain ⟨table, mutation, defaults, base, s⟩ := w
  cases s with
  | unrefined | resolved call => rfl
  | refined r =>
      have hrefined : clear.stage (.refined r) = .refined r :=
        congrArg Stage.refined (refinement_clear r)
      rw [write, hrefined]
      rfl

theorem operation_clear (op : Operation) : clear.operation op = op := by
  cases op with
  | fetch name f keep =>
      obtain ⟨columns, options, single⟩ := f
      cases options <;> rfl
  | write name w handle => cases w <;> rfl
  | refine handle r => exact congrArg (Operation.refine handle) (refinement_clear r)
  | trigger handle t keep =>
      obtain ⟨refinement, single⟩ := t
      cases refinement with
      | none => rfl
      | some r =>
          show Operation.trigger handle ⟨some (clear.refinement r), single⟩ keep = _
          rw [refinement_clear]
  | _ => rfl

theorem map_operation_clear (ops : List Operation) : ops.map clear.operation = ops :=
  (List.map_congr_left fun op _ => operation_clear op).trans (List.map_id ops)

/-! ## Merged options and requests -/

theorem hide_foldl (os : List Options) (o : Options) :
    v.hide (os.foldl Options.merge o) = (os.map v.hide).foldl Options.merge (v.hide o) := by
  induction os generalizing o with
  | nil => rfl
  | cons later rest ih => rw [List.foldl_cons, ih, v.hide_merge, List.map_cons, List.foldl_cons]

theorem hide_mergeAll (layers : List (Option Options)) :
    v.hide (Options.mergeAll layers) = Options.mergeAll (layers.map (Option.map v.hide)) := by
  have hlayers : (layers.filterMap id).map v.hide
      = (layers.map (Option.map v.hide)).filterMap id := by
    rw [List.map_filterMap, List.filterMap_map]
    rfl
  rw [Options.mergeAll, hide_foldl, hlayers, v.hide_empty]
  rfl

theorem stripsNulls_hide (o : Options) : (v.hide o).stripsNulls = o.stripsNulls := by
  rw [Options.stripsNulls, v.stripNulls]
  rfl

theorem apply_query (q : Query) (c : Clause) : (v.query q).apply c = v.query (q.apply c) := by
  cases c <;> rfl

theorem options_query (q : Query) (call : Option Options) :
    (v.query q).options (call.map v.hide) = v.hide (q.options call) :=
  (v.hide_mergeAll [some q.defaults, call]).symm

theorem payload_query (q : Query) (columns : Columns) (o : Options) :
    (v.query q).payload columns (v.hide o) = q.payload columns o := by
  simp only [Query.payload, query, stripsNulls_hide]

/-- What is asked of a write does not depend on what is hidden. -/
theorem request_mutation (m : Mutation) (table : String) (columns : Columns) (o : Options) :
    m.request table columns (v.hide o) = m.request table columns o := by
  cases m with
  | insert values | upsert values updateBody onConflict =>
      simp only [Mutation.request, Mutation.insertPayload, v.count, v.head, v.defaultToNull]
  | update values conditions => simp only [Mutation.request, stripsNulls_hide]
  | delete resourceId conditions => rfl

/-! ## Writes -/

theorem refine_write (w : Write) (r : Refinement) :
    (v.write w).refine (v.refinement r) = v.write (w.refine r) := by
  obtain ⟨table, mutation, defaults, base, s⟩ := w
  cases s <;> rfl

theorem settle_refinement (recorded : Refinement) (given : Option Refinement) :
    Write.settle (v.refinement recorded) (given.map v.refinement)
      = v.refinement (Write.settle recorded given) := by
  cases given with
  | none => rfl
  | some given =>
      obtain ⟨columns, options⟩ := given
      cases options <;> rfl

theorem options_write (w : Write) (o : Option Options) :
    (v.write w).options (o.map v.hide) = v.hide (w.options o) :=
  (v.hide_mergeAll [some w.defaults, some w.base, o]).symm

theorem requestFor_write (w : Write) (r : Refinement) :
    (v.write w).requestFor (v.refinement r) = w.requestFor r := by
  show w.mutation.request w.table r.columns ((v.write w).options (r.options.map v.hide)) = _
  rw [options_write, request_mutation]
  rfl

theorem described_query (q : Query) (w : Writing) :
    Session.described (v.query q) (v.writing w) = (Session.described q w).map v.write := by
  cases w with
  | insert values o | upsert values updateBody onConflict o | update values o =>
      simp only [Session.described, writing]
      cases Session.described.json values <;> rfl
  | delete resourceId o =>
      simp only [Session.described, writing, Query.delete]
      show (if q.deletedId? resourceId = none ∧ q.conditions = [] then _ else _) = _
      split <;> rfl

end Veil

end TableGateway
