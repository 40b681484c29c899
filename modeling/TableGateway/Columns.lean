/-
Which columns a request asks for.
-/
import TableGateway.Decode.Basic

namespace TableGateway

/-- A selection of columns: an expression that the gateway reads, or names. -/
inductive Columns where
  | expr (e : String)
  | list (names : List String)
deriving DecidableEq

namespace Columns

/-- All columns. -/
def all : Columns := expr "*"

instance : Inhabited Columns := ⟨all⟩

def toJson : Columns → Json
  | expr e => .string e
  | list names => .array (names.map Json.string)

/-- An expression, or else an array of names. -/
def decode : Decoder Columns :=
  Decode.firstOf "Columns"
    [Decode.made expr Decode.string, Decode.made list (Decode.list Decode.string)]

end Columns

end TableGateway
