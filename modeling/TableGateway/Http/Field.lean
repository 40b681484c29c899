/-
Which names and values HTTP allows for headers.
-/
import TableGateway.Headers

namespace TableGateway.Http

/-- The characters of header names: letters, digits and some marks. -/
def isNameChar (c : Char) : Bool :=
  c.isAlphanum || "!#$%&'*+-.^_`|~".toList.contains c

/-- A header name is not empty. -/
def isFieldName (name : String) : Bool :=
  name ≠ "" && name.toList.all isNameChar

/-- The characters of header values: all but controls, the tab excepted. -/
def isValueChar (c : Char) : Bool :=
  c = '\t' || (32 ≤ c.toNat && c.toNat ≠ 127)

def isFieldValue (value : String) : Bool :=
  value.toList.all isValueChar

/-- Why a header cannot be sent. -/
inductive FieldFault where
  | name (name : String)
  | value (name : String)
deriving DecidableEq

/-- Which names and values can be sent, and what is said of those that cannot. -/
structure FieldRules where
  isName : String → Bool
  isValue : String → Bool
  nameReason : String
  valueReason : String

namespace FieldRules

/-- What HTTP allows. -/
def standard : FieldRules where
  isName := isFieldName
  isValue := isFieldValue
  nameReason := "invalid HTTP header name"
  valueReason := "failed to parse header value"

variable (rules : FieldRules)

/-- The text of a fault, which names the header. -/
def message : FieldFault → String
  | .name n => "invalid header name `" ++ n ++ "`: " ++ rules.nameReason
  | .value n => "invalid value for header `" ++ n ++ "`: " ++ rules.valueReason

theorem message_name (n : String) :
    rules.message (.name n) = "invalid header name `" ++ n ++ "`: " ++ rules.nameReason := rfl

theorem message_value (n : String) :
    rules.message (.value n)
      = "invalid value for header `" ++ n ++ "`: " ++ rules.valueReason := rfl

/-- What is wrong with a header, its name before its value. -/
def faultOf (p : String × String) : Option FieldFault :=
  if !rules.isName p.1 then some (.name p.1)
  else if !rules.isValue p.2 then some (.value p.1)
  else none

/-- Puts headers into a message one after the other.  A name is written in lowercase,
and its header takes the place of one that the message has under it; the first header
that cannot be sent ends it. -/
def putAll (fields : Headers) : List (String × String) → Except FieldFault Headers
  | [] => .ok fields
  | p :: rest =>
      match rules.faultOf p with
      | some fault => .error fault
      | none => putAll (fields.insert p.1.toLower p.2) rest

/-- The headers of a message, put into it in the order of their names. -/
def fieldsOf (headers : Headers) : Except FieldFault Headers :=
  rules.putAll ∅ headers.entries

variable {rules}

/-- The first fault is what ends it, whatever was put in before. -/
theorem putAll_eq_error_iff {pairs : List (String × String)} {fields : Headers}
    {fault : FieldFault} :
    rules.putAll fields pairs = .error fault ↔ pairs.findSome? rules.faultOf = some fault := by
  induction pairs generalizing fields with
  | nil => exact ⟨nofun, nofun⟩
  | cons p rest ih =>
      rw [putAll, List.findSome?_cons]
      cases rules.faultOf p with
      | some first => exact ⟨fun h => by cases h; rfl, fun h => by cases h; rfl⟩
      | none => exact ih

theorem fieldsOf_eq_error_iff {headers : Headers} {fault : FieldFault} :
    rules.fieldsOf headers = .error fault
      ↔ headers.entries.findSome? rules.faultOf = some fault :=
  putAll_eq_error_iff

end FieldRules

end TableGateway.Http
