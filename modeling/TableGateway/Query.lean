/-
Queries on one table, put together clause by clause.

A `Query` gathers filters, pagination and grouping.  Its terminals, which make
requests of it, read what is gathered and change nothing.
-/
import TableGateway.Payload

namespace TableGateway

/-- What has been asked of a table so far, with the options of the client. -/
structure Query where
  table : String
  defaults : Options := {}
  /-- The filters in the order in which they were added. -/
  conditions : List Condition := []
  limit : Option Int64 := none
  offset : Option Int64 := none
  /-- A view to read from instead of the table. -/
  view : Option String := none
  groupBy : Option String := none
  granularity : Option Granularity := none
  currentPage : Option Int64 := none
  pageSize : Option Int64 := none
  totalPages : Option Int64 := none
  aggregationColumn : Option String := none
  aggregation : Option Aggregation := none
  aggregationDedup : Option Bool := none
deriving DecidableEq

/-- One link in the chain that puts a query together. -/
inductive Clause where
  | filter (c : Condition)
  /-- An equality for each pair, in order. -/
  | matchAll (pairs : List (String × Scalar))
  /-- The rows from one position to another, both included. -/
  | range (first last : Int64)
  | limit (n : Int64)
  | offset (n : Int64)
  | view (name : String)
  | groupBy (column : String)
  | granularity (g : Granularity)
  | page (current size : Int64)
  | totalPages (n : Int64)
  | aggregate (column : String) (a : Aggregation)
  | aggregationDedup (b : Bool)
  /-- Forgets all clauses so far. -/
  | reset

namespace Query

/-- A query without clauses. -/
def fresh (table : String) (defaults : Options) : Query := { table, defaults }

/-- Adds a clause. -/
def apply (q : Query) : Clause → Query
  | .filter c => { q with conditions := q.conditions ++ [c] }
  | .matchAll pairs =>
      { q with conditions := q.conditions ++ pairs.map fun p => Condition.eq p.1 p.2 }
  | .range first last => { q with offset := some first, limit := some (last - first + 1) }
  | .limit n => { q with limit := some n }
  | .offset n => { q with offset := some n }
  | .view name => { q with view := some name }
  | .groupBy column => { q with groupBy := some column }
  | .granularity g => { q with granularity := some g }
  | .page current size => { q with currentPage := some current, pageSize := some size }
  | .totalPages n => { q with totalPages := some n }
  | .aggregate column a => { q with aggregationColumn := some column, aggregation := some a }
  | .aggregationDedup b => { q with aggregationDedup := some b }
  | .reset =>
      { q with
        conditions := []
        limit := none
        offset := none
        view := none
        groupBy := none
        granularity := none
        currentPage := none
        pageSize := none
        totalPages := none
        aggregationColumn := none
        aggregation := none
        aggregationDedup := none }

/-- The options of a call: those of the client under those of the call. -/
def options (q : Query) (call : Option Options) : Options :=
  Options.mergeAll [some q.defaults, call]

/-- The body of a fetch under the merged options of its call. -/
def payload (q : Query) (columns : Columns) (merged : Options) : Payload.Fetch where
  viewName := q.view
  tableName := some q.table
  columns := some columns
  conditions := Payload.conditions? q.conditions
  limit := q.limit
  offset := q.offset
  currentPage := q.currentPage
  pageSize := q.pageSize
  totalPages := q.totalPages
  stripNulls := some merged.stripsNulls
  groupBy := q.groupBy
  granularity := q.granularity
  aggregationColumn := q.aggregationColumn
  aggregation := q.aggregation
  aggregationDedup := q.aggregationDedup

/-- The body of the fetch that a call with these options would send now. -/
def fetchPayload (q : Query) (columns : Columns) (call : Option Options) : Payload.Fetch :=
  q.payload columns (q.options call)

end Query

end TableGateway
