/-
JSON texts and the values they stand for.

`Json.read?` is strict: it accepts one value with blanks around its tokens and
nothing else.  The tokens are read left to right with a stack of the arrays and
objects that are still open, and no more than `maxDepth` may be open at once.
-/
import TableGateway.Json.Token

namespace TableGateway.Json

/-- An array or object that is still open, with what it holds so far, last
first.  An object waits for the value of the field `name`. -/
inductive Frame where
  | array (items : List Json)
  | object (fields : List (String × Json)) (name : String)

/-- What may come next. -/
inductive Expected where
  /-- A value. -/
  | value
  /-- A value, or the end of the array just opened. -/
  | firstItem
  /-- The name of a field. -/
  | name (fields : List (String × Json))
  /-- The name of a field, or the end of the object just opened. -/
  | firstName
  /-- The colon after a field's name. -/
  | colon (fields : List (String × Json)) (name : String)
  /-- What follows a complete value. -/
  | next (v : Json)

/-- The most arrays and objects that may be open at once. -/
def maxDepth : Nat := 127

/-- The start of a value; a mark may open an array or an object. -/
def beginValue (stack : List Frame) : Token → Option (List Frame × Expected)
  | .scalar v => some (stack, .next v)
  | .text s => some (stack, .next (.string s))
  | .openArray => if stack.length < maxDepth then some (.array [] :: stack, .firstItem) else none
  | .openObject => if stack.length < maxDepth then some (.object [] "" :: stack, .firstName) else none
  | _ => none

/-- The token after a complete value: a comma before the next item or field, or
the end of the array or object that the value is in. -/
def afterValue (v : Json) : List Frame → Token → Option (List Frame × Expected)
  | .array items :: rest, .comma => some (.array (v :: items) :: rest, .value)
  | .array items :: rest, .closeArray => some (rest, .next (.array (v :: items).reverse))
  | .object fields name :: rest, .comma =>
      some (.object fields name :: rest, .name ((name, v) :: fields))
  | .object fields name :: rest, .closeObject =>
      some (rest, .next (.ofFields ((name, v) :: fields).reverse))
  | _, _ => none

/-- One token further. -/
def advance (stack : List Frame) (expected : Expected) (t : Token) :
    Option (List Frame × Expected) :=
  match expected, t, stack with
  | .value, t, stack => beginValue stack t
  | .firstItem, .closeArray, _ :: rest => some (rest, .next (.array []))
  | .firstItem, t, stack => beginValue stack t
  | .firstName, .closeObject, _ :: rest => some (rest, .next (.object []))
  | .firstName, .text s, stack => some (stack, .colon [] s)
  | .name fields, .text s, stack => some (stack, .colon fields s)
  | .colon fields name, .colon, _ :: rest => some (.object fields name :: rest, .value)
  | .next v, t, stack => afterValue v stack t
  | _, _, _ => none

/-- Reads the remaining tokens; at the end one complete value must be left. -/
def build (stack : List Frame) (expected : Expected) : List Token → Option Json
  | [] =>
      match stack, expected with
      | [], .next v => some v
      | _, _ => none
  | t :: ts =>
      match advance stack expected t with
      | none => none
      | some (stack, expected) => build stack expected ts

/-- The value of a JSON text; `none` if the text is not one. -/
def read? (text : String) : Option Json :=
  (Token.scan text).bind (build [] .value)

end TableGateway.Json
