/-
Inspection texts: what clients, queries and writes look like to a developer.

A record is written as its name and its fields in braces, a variant as its name
with its contents in parentheses, and texts are quoted.
-/
import TableGateway.Client
import TableGateway.Write

namespace TableGateway.Describe

/-- A value that may be absent. -/
def option {α : Type} (f : α → String) : Option α → String
  | none => "None"
  | some a => "Some(" ++ f a ++ ")"

/-- Values in brackets. -/
def list {α : Type} (f : α → String) (as : List α) : String :=
  "[" ++ ", ".intercalate (as.map f) ++ "]"

/-- A variant with its contents. -/
def variant (name content : String) : String := name ++ "(" ++ content ++ ")"

/-- A record with its fields. -/
def record (name : String) (fields : List (String × String)) : String :=
  name ++ " \x7b " ++ ", ".intercalate (fields.map fun p => p.1 ++ ": " ++ p.2) ++ " \x7d"

def bool (b : Bool) : String := if b then "true" else "false"

def int (n : Int64) : String := Int.repr n.toInt

def text (s : String) : String := Text.quoted s

mutual

/-- A JSON value by its kind. -/
def json : Json → String
  | .null => "Null"
  | .bool b => variant "Bool" (bool b)
  | .integer n => variant "Number" (Int.repr n.val)
  | .float x => variant "Number" (Layout.json.write x.val)
  | .string s => variant "String" (text s)
  | .array items => "Array [" ++ jsonItems true items ++ "]"
  | .object fields => "Object \x7b" ++ jsonFields true fields ++ "\x7d"

def jsonItems (first : Bool) : List Json → String
  | [] => ""
  | v :: rest => (if first then "" else ", ") ++ json v ++ jsonItems false rest

def jsonFields (first : Bool) : List (String × Json) → String
  | [] => ""
  | (k, v) :: rest =>
      (if first then "" else ", ") ++ text k ++ ": " ++ json v ++ jsonFields false rest

end

def scalar : Scalar → String
  | .null => "Null"
  | .bool b => variant "Bool" (bool b)
  | .int n => variant "Int" (int n)
  | .uint n => variant "UInt" (Nat.repr n.toNat)
  | .float x => variant "Float" (Layout.inspect.write x)
  | .text s => variant "Text" (text s)

def conditionValue : ConditionValue → String
  | .scalar s => variant "Scalar" (scalar s)
  | .list items => variant "List" (list scalar items)
  | .expr e => variant "Expr" (text e)

def operator : Operator → String
  | .eq => "Eq"
  | .neq => "Neq"
  | .gt => "Gt"
  | .gte => "Gte"
  | .lt => "Lt"
  | .lte => "Lte"
  | .like => "Like"
  | .ilike => "Ilike"
  | .is => "Is"
  | .isIn => "In"
  | .contains => "Contains"
  | .containedBy => "ContainedBy"
  | .not => "Not"
  | .or => "Or"

def condition (c : Condition) : String :=
  record "Condition"
    [("column", option text c.column), ("operator", operator c.operator),
      ("value", option conditionValue c.value)]

def columns : Columns → String
  | .expr e => variant "Expr" (text e)
  | .list names => variant "List" (list text names)

/-- Options are described by their address and their client; a sign stands for the rest. -/
def client (defaults : Options) : String :=
  "AthenaClient \x7b base_url: " ++ option text defaults.baseUrl ++ ", client: "
    ++ option text defaults.client ++ ", .. \x7d"

def query (q : Query) : String :=
  record "QueryBuilder"
    [("table", text q.table), ("conditions", list condition q.conditions),
      ("limit", option int q.limit), ("offset", option int q.offset),
      ("view", option text q.view), ("group_by", option text q.groupBy),
      ("current_page", option int q.currentPage),
      ("aggregation_column", option text q.aggregationColumn)]

def mutation : Mutation → String
  | .insert values => record "Insert" [("values", json values)]
  | .upsert values updateBody onConflict =>
      record "Upsert"
        [("values", json values), ("update_body", option json updateBody),
          ("on_conflict", option columns onConflict)]
  | .update values conditions =>
      record "Update"
        [("values", json values), ("conditions", option (list condition) conditions)]
  | .delete resourceId conditions =>
      record "Delete"
        [("resource_id", option text resourceId), ("conditions", option (list condition) conditions)]

def write (w : Write) : String :=
  record "MutationQuery"
    [("table", text w.table), ("mutation", mutation w.mutation), ("state", w.stage.name)]

end TableGateway.Describe
