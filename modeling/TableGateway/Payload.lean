/-
The bodies of requests, one kind for each endpoint.

Each payload lists its fields in declaration order, which is their order on the
wire, and leaves out those that are absent.  As a JSON value its fields stand in
key order, like those of every object.
-/
import TableGateway.Columns
import TableGateway.Condition
import TableGateway.Endpoint
import TableGateway.Json.Printer
import TableGateway.Options

namespace TableGateway

/-- The span of time over which grouped rows are gathered. -/
inductive Granularity where
  | day
  | hour
  | minute
deriving DecidableEq

namespace Granularity

def name : Granularity → String
  | day => "day"
  | hour => "hour"
  | minute => "minute"

def decode : Decoder Granularity :=
  Decode.oneOf ([day, hour, minute].map fun g => (g.name, g))

end Granularity

/-- What the gateway computes over grouped rows. -/
inductive Aggregation where
  | cumulativeSum
deriving DecidableEq

namespace Aggregation

def name : Aggregation → String
  | cumulativeSum => "cumulative_sum"

def decode : Decoder Aggregation :=
  Decode.oneOf [(cumulativeSum.name, cumulativeSum)]

end Aggregation

namespace Payload

/-- A field that is left out when there is no value for it. -/
def given {α : Type} (name : String) (toJson : α → Json) (value : Option α) :
    List (String × Json) :=
  (value.map fun a => (name, toJson a)).toList

def conditionsJson (cs : List Condition) : Json := .array (cs.map Condition.toJson)

/-- A list of conditions, absent when it is empty. -/
def conditions? (cs : List Condition) : Option (List Condition) :=
  if cs.isEmpty then none else some cs

/-- The body of a fetch. -/
structure Fetch where
  viewName : Option String := none
  tableName : Option String := none
  columns : Option Columns := none
  conditions : Option (List Condition) := none
  limit : Option Int64 := none
  offset : Option Int64 := none
  currentPage : Option Int64 := none
  pageSize : Option Int64 := none
  totalPages : Option Int64 := none
  stripNulls : Option Bool := none
  groupBy : Option String := none
  granularity : Option Granularity := none
  aggregationColumn : Option String := none
  aggregation : Option Aggregation := none
  aggregationDedup : Option Bool := none
deriving DecidableEq

namespace Fetch

def fields (p : Fetch) : List (String × Json) :=
  given "view_name" .string p.viewName
    ++ given "table_name" .string p.tableName
    ++ given "columns" Columns.toJson p.columns
    ++ given "conditions" conditionsJson p.conditions
    ++ given "limit" .ofInt64 p.limit
    ++ given "offset" .ofInt64 p.offset
    ++ given "current_page" .ofInt64 p.currentPage
    ++ given "page_size" .ofInt64 p.pageSize
    ++ given "total_pages" .ofInt64 p.totalPages
    ++ given "strip_nulls" .bool p.stripNulls
    ++ given "group_by" .string p.groupBy
    ++ given "time_granularity" (.string ·.name) p.granularity
    ++ given "aggregation_column" .string p.aggregationColumn
    ++ given "aggregation_strategy" (.string ·.name) p.aggregation
    ++ given "aggregation_dedup" .bool p.aggregationDedup

def record : Record Fetch :=
  (((((((((((((((Record.pure Fetch.mk).add
    (.optional "view_name" Decode.string)).add
    (.optional "table_name" Decode.string)).add
    (.optional "columns" Columns.decode)).add
    (.optional "conditions" (Decode.list Condition.decode))).add
    (.optional "limit" Decode.int64)).add
    (.optional "offset" Decode.int64)).add
    (.optional "current_page" Decode.int64)).add
    (.optional "page_size" Decode.int64)).add
    (.optional "total_pages" Decode.int64)).add
    (.optional "strip_nulls" Decode.bool)).add
    (.optional "group_by" Decode.string)).add
    (.optional "time_granularity" Granularity.decode)).add
    (.optional "aggregation_column" Decode.string)).add
    (.optional "aggregation_strategy" Aggregation.decode)).add
    (.optional "aggregation_dedup" Decode.bool)

def decode : Decoder Fetch := record.decode "FetchPayload"

end Fetch

/-- The body of an insert, with or without an update of rows that are there. -/
structure Insert where
  tableName : String
  /-- One row or an array of rows. -/
  insertBody : Json
  updateBody : Option Json := none
  columns : Option Columns := none
  count : Option CountMode := none
  head : Option Bool := none
  defaultToNull : Option Bool := none
  onConflict : Option Columns := none

namespace Insert

def fields (p : Insert) : List (String × Json) :=
  [("table_name", .string p.tableName), ("insert_body", p.insertBody)]
    ++ given "update_body" id p.updateBody
    ++ given "columns" Columns.toJson p.columns
    ++ given "count" (.string ·.name) p.count
    ++ given "head" .bool p.head
    ++ given "default_to_null" .bool p.defaultToNull
    ++ given "on_conflict" Columns.toJson p.onConflict

def record : Record Insert :=
  ((((((((Record.pure Insert.mk).add
    (.required "table_name" Decode.string)).add
    (.required "insert_body" Decode.value)).add
    (.optional "update_body" Decode.value)).add
    (.optional "columns" Columns.decode)).add
    (.optional "count" CountMode.decode)).add
    (.optional "head" Decode.bool)).add
    (.optional "default_to_null" Decode.bool)).add
    (.optional "on_conflict" Columns.decode)

def decode : Decoder Insert := record.decode "InsertPayload"

end Insert

/-- The body of an update. -/
structure Update where
  tableName : String
  updateBody : Json
  conditions : Option (List Condition) := none
  columns : Option Columns := none
  stripNulls : Option Bool := none

namespace Update

def fields (p : Update) : List (String × Json) :=
  [("table_name", .string p.tableName), ("update_body", p.updateBody)]
    ++ given "conditions" conditionsJson p.conditions
    ++ given "columns" Columns.toJson p.columns
    ++ given "strip_nulls" .bool p.stripNulls

def record : Record Update :=
  (((((Record.pure Update.mk).add
    (.required "table_name" Decode.string)).add
    (.required "update_body" Decode.value)).add
    (.optional "conditions" (Decode.list Condition.decode))).add
    (.optional "columns" Columns.decode)).add
    (.optional "strip_nulls" Decode.bool)

def decode : Decoder Update := record.decode "UpdatePayload"

end Update

/-- The body of a delete. -/
structure Delete where
  tableName : String
  resourceId : Option String := none
  conditions : Option (List Condition) := none
  columns : Option Columns := none
deriving DecidableEq

namespace Delete

def fields (p : Delete) : List (String × Json) :=
  [("table_name", .string p.tableName)]
    ++ given "resource_id" .string p.resourceId
    ++ given "conditions" conditionsJson p.conditions
    ++ given "columns" Columns.toJson p.columns

def record : Record Delete :=
  ((((Record.pure Delete.mk).add
    (.required "table_name" Decode.string)).add
    (.optional "resource_id" Decode.string)).add
    (.optional "conditions" (Decode.list Condition.decode))).add
    (.optional "columns" Columns.decode)

def decode : Decoder Delete := record.decode "DeletePayload"

end Delete

end Payload

/-- A complete request: the payload of one of the endpoints. -/
inductive Request where
  | fetch (p : Payload.Fetch)
  | insert (p : Payload.Insert)
  | update (p : Payload.Update)
  | delete (p : Payload.Delete)

namespace Request

def endpoint : Request → Endpoint
  | fetch _ => .fetch
  | insert _ => .insert
  | update _ => .update
  | delete _ => .delete

/-- The fields of the body in declaration order. -/
def fields : Request → List (String × Json)
  | fetch p => p.fields
  | insert p => p.fields
  | update p => p.fields
  | delete p => p.fields

/-- The body as a JSON value. -/
def toJson (r : Request) : Json := .ofFields r.fields

/-- The body as it is written on the wire. -/
def wireText (r : Request) : String := Json.textInOrder r.fields

end Request

end TableGateway
