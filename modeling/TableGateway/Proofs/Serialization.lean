/-
Serialization: requests as values that are still to be written.

Writing a value as JSON fails at a key that is not text and at an integer that is
too wide.  A request has neither, whatever it holds: each of its members is written
(`Datum.Written`), and so the whole body is (`Request.serialize_eq`).
-/
import TableGateway.Datum
import TableGateway.Payload

namespace TableGateway

/-! ## Members of maps -/

namespace Datum

variable {α : Type}

/-- A member with a text for its key, left out when there is no value for it. -/
def member (name : String) (datum : α → Datum) (value : Option α) : List (Datum × Datum) :=
  (value.map fun a => (.text name, datum a)).toList

/-- Members are written as these pairs. -/
def Written (entries : List (Datum × Datum)) (pairs : List (String × Json)) : Prop :=
  entriesJson entries = .ok pairs

theorem Written.append {entries entries' : List (Datum × Datum)}
    {pairs pairs' : List (String × Json)} (h : Written entries pairs)
    (h' : Written entries' pairs') : Written (entries ++ entries') (pairs ++ pairs') := by
  unfold Written at *
  induction entries generalizing pairs with
  | nil =>
      cases h
      exact h'
  | cons entry rest ih =>
      obtain ⟨k, v⟩ := entry
      rw [List.cons_append]
      unfold entriesJson at h ⊢
      cases hname : keyText k with
      | error e => rw [hname] at h; cases h
      | ok name =>
          cases hv : toJson v with
          | error e => rw [hname, hv] at h; cases h
          | ok j =>
              cases hrest : entriesJson rest with
              | error e => rw [hname, hv, hrest] at h; cases h
              | ok pairs₀ =>
                  rw [hname, hv, hrest] at h
                  cases h
                  simp only [ih hrest]
                  rfl

theorem written_entry (name : String) {v : Datum} {j : Json} (h : v.toJson = .ok j) :
    Written [(.text name, v)] [(name, j)] := by
  simp only [Written, entriesJson, keyText, h]
  rfl

theorem written_member {datum : α → Datum} {toJson : α → Json}
    (h : ∀ a, (datum a).toJson = .ok (toJson a)) (name : String) :
    ∀ value : Option α, Written (member name datum value) (Payload.given name toJson value)
  | Option.none => rfl
  | Option.some a => written_entry name (h a)

theorem itemsJson_map {datum : α → Datum} {toJson : α → Json}
    (h : ∀ a, (datum a).toJson = .ok (toJson a)) (as : List α) :
    itemsJson (as.map datum) = .ok (as.map toJson) := by
  induction as with
  | nil => rfl
  | cons a as ih =>
      simp only [List.map_cons, itemsJson, h, ih]
      rfl

theorem toJson_tuple {datum : α → Datum} {toJson : α → Json}
    (h : ∀ a, (datum a).toJson = .ok (toJson a)) (as : List α) :
    (tuple (as.map datum)).toJson = .ok (.array (as.map toJson)) := by
  simp only [Datum.toJson, itemsJson_map h]
  rfl

theorem toJson_map {entries : List (Datum × Datum)} {pairs : List (String × Json)}
    (h : Written entries pairs) : (map entries).toJson = .ok (.ofFields pairs) := by
  unfold Written at h
  simp only [Datum.toJson, h]
  rfl

/-- An integer that is in range is not too wide. -/
theorem toJson_integer (n : WideInt) : (integer n.val).toJson = .ok (.integer n) := by
  have hrange : WideInt.ofInt? n.val = Option.some n := dif_pos ⟨n.lower, n.upper⟩
  simp only [Datum.toJson, hrange]

theorem toJson_int64 (n : Int64) : (integer n.toInt).toJson = .ok (.ofInt64 n) :=
  toJson_integer (.ofInt64 n)

theorem toJson_text (s : String) : (text s).toJson = .ok (.string s) :=
  rfl

theorem toJson_bool (b : Bool) : (bool b).toJson = .ok (.bool b) :=
  rfl

theorem toJson_json (v : Json) : (json v).toJson = .ok v :=
  rfl

end Datum

/-! ## Parts of requests -/

def Scalar.datum : Scalar → Datum
  | null => .none
  | bool b => .bool b
  | int n => .integer n.toInt
  | uint n => .integer n.toNat
  | float x => .float x
  | text s => .text s

theorem Scalar.toJson_datum (s : Scalar) : s.datum.toJson = .ok s.toJson := by
  cases s with
  | int n => exact Datum.toJson_int64 n
  | uint n => exact Datum.toJson_integer (.ofUInt64 n)
  | _ => rfl

def ConditionValue.datum : ConditionValue → Datum
  | scalar s => s.datum
  | list items => .tuple (items.map Scalar.datum)
  | expr e => .text e

theorem ConditionValue.toJson_datum (v : ConditionValue) : v.datum.toJson = .ok v.toJson := by
  cases v with
  | scalar s => exact s.toJson_datum
  | list items => exact Datum.toJson_tuple Scalar.toJson_datum items
  | expr e => exact Datum.toJson_text e

def Condition.datum (c : Condition) : Datum :=
  .map (Datum.member "column" .text c.column
    ++ [(.text "operator", .text c.operator.name)]
    ++ Datum.member "value" ConditionValue.datum c.value)

theorem Condition.toJson_datum (c : Condition) : c.datum.toJson = .ok c.toJson :=
  Datum.toJson_map <|
    (Datum.written_member Datum.toJson_text "column" c.column)
      |>.append (Datum.written_entry "operator" (Datum.toJson_text c.operator.name))
      |>.append (Datum.written_member ConditionValue.toJson_datum "value" c.value)

def Columns.datum : Columns → Datum
  | expr e => .text e
  | list names => .tuple (names.map .text)

theorem Columns.toJson_datum (c : Columns) : c.datum.toJson = .ok c.toJson := by
  cases c with
  | expr e => exact Datum.toJson_text e
  | list names => exact Datum.toJson_tuple Datum.toJson_text names

namespace Payload

def conditionsDatum (cs : List Condition) : Datum := .tuple (cs.map Condition.datum)

theorem toJson_conditionsDatum (cs : List Condition) :
    (conditionsDatum cs).toJson = .ok (conditionsJson cs) :=
  Datum.toJson_tuple Condition.toJson_datum cs

/-! ## Bodies -/

/-- The members of a fetch in declaration order. -/
def Fetch.members (p : Fetch) : List (Datum × Datum) :=
  Datum.member "view_name" .text p.viewName
    ++ Datum.member "table_name" .text p.tableName
    ++ Datum.member "columns" Columns.datum p.columns
    ++ Datum.member "conditions" conditionsDatum p.conditions
    ++ Datum.member "limit" (.integer ·.toInt) p.limit
    ++ Datum.member "offset" (.integer ·.toInt) p.offset
    ++ Datum.member "current_page" (.integer ·.toInt) p.currentPage
    ++ Datum.member "page_size" (.integer ·.toInt) p.pageSize
    ++ Datum.member "total_pages" (.integer ·.toInt) p.totalPages
    ++ Datum.member "strip_nulls" .bool p.stripNulls
    ++ Datum.member "group_by" .text p.groupBy
    ++ Datum.member "time_granularity" (.text ·.name) p.granularity
    ++ Datum.member "aggregation_column" .text p.aggregationColumn
    ++ Datum.member "aggregation_strategy" (.text ·.name) p.aggregation
    ++ Datum.member "aggregation_dedup" .bool p.aggregationDedup

theorem Fetch.written (p : Fetch) : Datum.Written p.members p.fields :=
  (Datum.written_member Datum.toJson_text _ p.viewName)
    |>.append (Datum.written_member Datum.toJson_text _ p.tableName)
    |>.append (Datum.written_member Columns.toJson_datum _ p.columns)
    |>.append (Datum.written_member toJson_conditionsDatum _ p.conditions)
    |>.append (Datum.written_member Datum.toJson_int64 _ p.limit)
    |>.append (Datum.written_member Datum.toJson_int64 _ p.offset)
    |>.append (Datum.written_member Datum.toJson_int64 _ p.currentPage)
    |>.append (Datum.written_member Datum.toJson_int64 _ p.pageSize)
    |>.append (Datum.written_member Datum.toJson_int64 _ p.totalPages)
    |>.append (Datum.written_member Datum.toJson_bool _ p.stripNulls)
    |>.append (Datum.written_member Datum.toJson_text _ p.groupBy)
    |>.append (Datum.written_member (fun _ => Datum.toJson_text _) _ p.granularity)
    |>.append (Datum.written_member Datum.toJson_text _ p.aggregationColumn)
    |>.append (Datum.written_member (fun _ => Datum.toJson_text _) _ p.aggregation)
    |>.append (Datum.written_member Datum.toJson_bool _ p.aggregationDedup)

def Insert.members (p : Insert) : List (Datum × Datum) :=
  [(.text "table_name", .text p.tableName), (.text "insert_body", .json p.insertBody)]
    ++ Datum.member "update_body" .json p.updateBody
    ++ Datum.member "columns" Columns.datum p.columns
    ++ Datum.member "count" (.text ·.name) p.count
    ++ Datum.member "head" .bool p.head
    ++ Datum.member "default_to_null" .bool p.defaultToNull
    ++ Datum.member "on_conflict" Columns.datum p.onConflict

theorem Insert.written (p : Insert) : Datum.Written p.members p.fields :=
  (Datum.written_entry "table_name" (Datum.toJson_text p.tableName))
    |>.append (Datum.written_entry "insert_body" (Datum.toJson_json p.insertBody))
    |>.append (Datum.written_member Datum.toJson_json _ p.updateBody)
    |>.append (Datum.written_member Columns.toJson_datum _ p.columns)
    |>.append (Datum.written_member (fun _ => Datum.toJson_text _) _ p.count)
    |>.append (Datum.written_member Datum.toJson_bool _ p.head)
    |>.append (Datum.written_member Datum.toJson_bool _ p.defaultToNull)
    |>.append (Datum.written_member Columns.toJson_datum _ p.onConflict)

def Update.members (p : Update) : List (Datum × Datum) :=
  [(.text "table_name", .text p.tableName), (.text "update_body", .json p.updateBody)]
    ++ Datum.member "conditions" conditionsDatum p.conditions
    ++ Datum.member "columns" Columns.datum p.columns
    ++ Datum.member "strip_nulls" .bool p.stripNulls

theorem Update.written (p : Update) : Datum.Written p.members p.fields :=
  (Datum.written_entry "table_name" (Datum.toJson_text p.tableName))
    |>.append (Datum.written_entry "update_body" (Datum.toJson_json p.updateBody))
    |>.append (Datum.written_member toJson_conditionsDatum _ p.conditions)
    |>.append (Datum.written_member Columns.toJson_datum _ p.columns)
    |>.append (Datum.written_member Datum.toJson_bool _ p.stripNulls)

def Delete.members (p : Delete) : List (Datum × Datum) :=
  [(.text "table_name", .text p.tableName)]
    ++ Datum.member "resource_id" .text p.resourceId
    ++ Datum.member "conditions" conditionsDatum p.conditions
    ++ Datum.member "columns" Columns.datum p.columns

theorem Delete.written (p : Delete) : Datum.Written p.members p.fields :=
  (Datum.written_entry "table_name" (Datum.toJson_text p.tableName))
    |>.append (Datum.written_member Datum.toJson_text _ p.resourceId)
    |>.append (Datum.written_member toJson_conditionsDatum _ p.conditions)
    |>.append (Datum.written_member Columns.toJson_datum _ p.columns)

end Payload

namespace Request

/-- The body as a value that is still to be written. -/
def datum : Request → Datum
  | fetch p => .map p.members
  | insert p => .map p.members
  | update p => .map p.members
  | delete p => .map p.members

/-- Writes the body, if it can be written. -/
def serialize (r : Request) : Except Datum.Fault Json := r.datum.toJson

/-- Every body can be written, and comes to its JSON form. -/
theorem serialize_eq (r : Request) : r.serialize = .ok r.toJson := by
  cases r with
  | fetch p => exact Datum.toJson_map p.written
  | insert p => exact Datum.toJson_map p.written
  | update p => exact Datum.toJson_map p.written
  | delete p => exact Datum.toJson_map p.written

end Request

end TableGateway
