/-
Deferred writes.

A `Write` is an insert, update or delete that has been described and not yet
sent.  It may be refined, which records the columns to return and further
options, until the first trigger fixes its request.
-/
import TableGateway.Error
import TableGateway.Query

namespace TableGateway

/-- What a write is to do, fixed when it is described. -/
inductive Mutation where
  | insert (values : Json)
  /-- An insert that updates the rows that are there already. -/
  | upsert (values : Json) (updateBody : Option Json) (onConflict : Option Columns)
  | update (values : Json) (conditions : Option (List Condition))
  | delete (resourceId : Option String) (conditions : Option (List Condition))

namespace Mutation

/-- The body of an insert.  Only a wish for the head alone is passed on. -/
def insertPayload (table : String) (values : Json) (columns : Columns) (o : Options) :
    Payload.Insert where
  tableName := table
  insertBody := values
  columns := some columns
  count := o.count
  head := o.head.filter id
  defaultToNull := o.defaultToNull

/-- The request for the given columns under merged options. -/
def request (m : Mutation) (table : String) (columns : Columns) (o : Options) : Request :=
  match m with
  | insert values => .insert (insertPayload table values columns o)
  | upsert values updateBody onConflict =>
      .insert { insertPayload table values columns o with updateBody, onConflict }
  | update values conditions =>
      .update
        { tableName := table, updateBody := values, conditions, columns := some columns,
          stripNulls := some o.stripsNulls }
  | delete resourceId conditions =>
      .delete { tableName := table, resourceId, conditions, columns := some columns }

end Mutation

/-- The columns that a write returns, and the options recorded with them. -/
structure Refinement where
  columns : Columns := .all
  options : Option Options := none
deriving DecidableEq, Inhabited

/-- How far a write has got. -/
inductive Stage where
  /-- Nothing is recorded. -/
  | unrefined
  | refined (r : Refinement)
  /-- A trigger has made the call of this number. -/
  | resolved (call : Nat)
deriving DecidableEq

namespace Stage

def name : Stage → String
  | unrefined => "Unrefined"
  | refined _ => "Refined"
  | resolved _ => "Resolved"

/-- What is recorded; a resolved write records nothing any more. -/
def recorded : Stage → Refinement
  | refined r => r
  | _ => {}

end Stage

/-- A write that is described, with the options that were given for it. -/
structure Write where
  table : String
  mutation : Mutation
  defaults : Options
  base : Options
  stage : Stage := .unrefined

namespace Write

/-- The options of the call: the client's, the write's and the refinement's. -/
def options (w : Write) (refinement : Option Options) : Options :=
  Options.mergeAll [some w.defaults, some w.base, refinement]

/-- Records a refinement in place of an earlier one; a resolved write stays as it is. -/
def refine (w : Write) (r : Refinement) : Write :=
  match w.stage with
  | .resolved _ => w
  | _ => { w with stage := .refined r }

/-- The request under a refinement. -/
def requestFor (w : Write) (r : Refinement) : Request :=
  w.mutation.request w.table r.columns (w.options r.options)

/-- The request under what is recorded. -/
def request (w : Write) : Request := w.requestFor w.stage.recorded

/-- The refinement that a trigger settles on: columns given with the trigger
replace recorded ones, and recorded options stay unless others are given. -/
def settle (recorded : Refinement) : Option Refinement → Refinement
  | none => recorded
  | some given => { columns := given.columns, options := given.options.or recorded.options }

end Write

namespace Query

/-- A write on the table of a query. -/
def write (q : Query) (m : Mutation) (o : Options) : Write :=
  { table := q.table, mutation := m, defaults := q.defaults, base := o }

def insert (q : Query) (values : Json) (o : Options) : Write := q.write (.insert values) o

def upsert (q : Query) (values : Json) (updateBody : Option Json) (onConflict : Option Columns)
    (o : Options) : Write :=
  q.write (.upsert values updateBody onConflict) o

/-- An update of the rows that the filters so far select. -/
def update (q : Query) (values : Json) (o : Options) : Write :=
  q.write (.update values (Payload.conditions? q.conditions)) o

/-- The id of the row to delete: the one given, unless it is empty, or else that
of the first filter that names a row. -/
def deletedId? (q : Query) (given : Option String) : Option String :=
  (given.filter (· ≠ "")).or
    ((q.conditions.find? Condition.targetsResource).bind Condition.resourceId?)

/-- A delete of one row or of the rows that the filters select; a delete of all
rows is refused. -/
def delete (q : Query) (given : Option String) (o : Options) : Except Error Write :=
  let id := q.deletedId? given
  if id = none ∧ q.conditions = [] then .error .unboundedDelete
  else .ok (q.write (.delete id (Payload.conditions? q.conditions)) o)

end Query

end TableGateway
