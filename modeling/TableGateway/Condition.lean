/-
Filter conditions: a column, an operator and a value.

A `Condition` is one predicate of a filter; the gateway takes the conditions of
a request together.  Negations and disjunctions carry no column: they are
written out as one expression, which the gateway reads.
-/
import TableGateway.Scalar
import TableGateway.Decode.Record

namespace TableGateway

/-- How a column is compared. -/
inductive Operator where
  | eq
  | neq
  | gt
  | gte
  | lt
  | lte
  | like
  | ilike
  | is
  | isIn
  | contains
  | containedBy
  | not
  | or
deriving DecidableEq

namespace Operator

/-- The name of an operator on the wire. -/
def name : Operator → String
  | eq => "eq"
  | neq => "neq"
  | gt => "gt"
  | gte => "gte"
  | lt => "lt"
  | lte => "lte"
  | like => "like"
  | ilike => "ilike"
  | is => "is"
  | isIn => "in"
  | contains => "contains"
  | containedBy => "containedBy"
  | not => "not"
  | or => "or"

/-- All operators. -/
def all : List Operator :=
  [eq, neq, gt, gte, lt, lte, like, ilike, is, isIn, contains, containedBy, not, or]

def decode : Decoder Operator :=
  Decode.oneOf (all.map fun op => (op.name, op))

end Operator

/-- What a condition compares with. -/
inductive ConditionValue where
  | scalar (s : Scalar)
  | list (items : List Scalar)
  /-- An expression that the gateway reads. -/
  | expr (e : String)
deriving DecidableEq

namespace ConditionValue

/-- The value as it reads in an expression; the items of a list are joined by commas. -/
def display : ConditionValue → String
  | scalar s => s.display
  | list items => ",".intercalate (items.map Scalar.display)
  | expr e => e

/-- A list is an array, never a joined text; an expression is a string. -/
def toJson : ConditionValue → Json
  | scalar s => s.toJson
  | list items => .array (items.map Scalar.toJson)
  | expr e => .string e

/-- A scalar, or else an array of scalars, or else an expression. -/
def decode : Decoder ConditionValue :=
  Decode.firstOf "ConditionValue"
    [Decode.made scalar Scalar.decode, Decode.made list (Decode.list Scalar.decode),
      Decode.made expr Decode.string]

/-- A list of values of one type. -/
def ofList {α : Type} [ToScalar α] (items : List α) : ConditionValue :=
  list (items.map toScalar)

end ConditionValue

/-- One predicate of a filter. -/
structure Condition where
  column : Option String
  operator : Operator
  value : Option ConditionValue
deriving DecidableEq

namespace Condition

/-- A comparison of a column with a value. -/
def compare (column : String) (operator : Operator) (value : ConditionValue) : Condition :=
  ⟨some column, operator, some value⟩

/-- The column equals the scalar. -/
def eq (column : String) (s : Scalar) : Condition := compare column .eq (.scalar s)

/-- The column is one of the scalars. -/
def isIn (column : String) (items : List Scalar) : Condition := compare column .isIn (.list items)

/-- The column holds all the scalars. -/
def contains (column : String) (items : List Scalar) : Condition :=
  compare column .contains (.list items)

/-- All that the column holds is among the scalars. -/
def containedBy (column : String) (items : List Scalar) : Condition :=
  compare column .containedBy (.list items)

/-- The negation of an expression. -/
def notExpr (e : String) : Condition := ⟨none, .not, some (.expr e)⟩

/-- The negation of a comparison, composed as `column.operator.value`. -/
def not (column : String) (operator : Operator) (value : ConditionValue) : Condition :=
  notExpr (column ++ "." ++ operator.name ++ "." ++ value.display)

/-- One of several predicates, as an expression. -/
def or (e : String) : Condition := ⟨none, .or, some (.expr e)⟩

/-- The fields in declaration order; what is absent is left out. -/
def fields (c : Condition) : List (String × Json) :=
  (c.column.map fun s => ("column", Json.string s)).toList
    ++ [("operator", .string c.operator.name)]
    ++ (c.value.map fun v => ("value", v.toJson)).toList

def toJson (c : Condition) : Json := .ofFields c.fields

/-- Null for a value reads as no value. -/
def record : Record Condition :=
  (((Record.pure Condition.mk).add (.optional "column" Decode.string)).add
    (.required "operator" Operator.decode)).add (.optional "value" ConditionValue.decode)

def decode : Decoder Condition := record.decode "Condition"

/-- Whether the condition names one row by its id. -/
def targetsResource (c : Condition) : Bool :=
  c.operator = .eq && (c.column = some "resource_id" || c.column = some "id")

/-- The id of the row that the condition names, in display text. -/
def resourceId? (c : Condition) : Option String :=
  if c.targetsResource then
    match c.value with
    | none => none
    | some (.scalar .null) => none
    | some v => some v.display
  else none

end Condition

end TableGateway
