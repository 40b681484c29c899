/-
Round trips: requests and responses through their JSON forms.

Each part of a payload has a codec, and so each payload has one, field by field.
What is read is the payload itself but for its canonical form: a condition reads
as an expression never does, namely as text, a number takes the only type its
JSON form tells of, and null stands for no value where a value may be missing.
All else is told apart by the JSON form (`wire_round_trip`).
-/
import TableGateway.Proofs.Codec
import TableGateway.Proofs.Serialization

namespace TableGateway

/-! ## Canonical forms -/

/-- The value, unless it is null. -/
def Json.nonNull? (v : Json) : Option Json := if v.isNull then none else some v

/-- An unsigned integer is signed where it fits, and what JSON cannot write is null. -/
def Scalar.canonical : Scalar → Scalar
  | uint n => ofUnsigned n
  | float x => if x.isFinite then float x else null
  | s => s

namespace ConditionValue

/-- An expression is text. -/
def canonical : ConditionValue → ConditionValue
  | scalar s => scalar s.canonical
  | list items => list (items.map Scalar.canonical)
  | expr e => scalar (.text e)

/-- The canonical form, and no value in place of null. -/
def canonical? (v : ConditionValue) : Option ConditionValue :=
  if v.canonical = scalar .null then none else some v.canonical

end ConditionValue

def Condition.canonical (c : Condition) : Condition :=
  { c with value := c.value.bind ConditionValue.canonical? }

namespace Payload

def Fetch.canonical (p : Fetch) : Fetch :=
  { p with conditions := p.conditions.map (·.map Condition.canonical) }

def Insert.canonical (p : Insert) : Insert :=
  { p with updateBody := p.updateBody.bind Json.nonNull? }

def Update.canonical (p : Update) : Update :=
  { p with conditions := p.conditions.map (·.map Condition.canonical) }

def Delete.canonical (p : Delete) : Delete :=
  { p with conditions := p.conditions.map (·.map Condition.canonical) }

end Payload

def Request.canonical : Request → Request
  | fetch p => fetch p.canonical
  | insert p => insert p.canonical
  | update p => update p.canonical
  | delete p => delete p.canonical

def Response.canonical (r : Response) : Response :=
  { r with data := r.data.bind Json.nonNull? }

/-! ## Codecs of single values -/

namespace Decode

theorem bounded_of_mem {name : String} {low high : Int} {n : WideInt}
    (h : low ≤ n.val ∧ n.val < high) : bounded name low high (.integer n) = .ok n.val :=
  if_pos h

theorem int64_ofInt64 (n : Int64) : int64 (.ofInt64 n) = .ok n := by
  have hlow := n.le_toInt
  have hhigh := n.toInt_lt
  have hval : (WideInt.ofInt64 n).val = n.toInt := rfl
  rw [int64, Json.ofInt64, bounded_of_mem (by omega), hval]
  exact congrArg Except.ok (Int64.ofInt_toInt n)

theorem uint16_ofNat (n : UInt16) : uint16 (.ofNat n.toNat) = .ok n := by
  have hlt := n.toNat_lt
  have hval : (WideInt.ofUInt64 (UInt64.ofNat n.toNat)).val = n.toNat := by
    simp [WideInt.ofUInt64]
  rw [uint16, Json.ofNat, Json.ofUInt64, bounded_of_mem (by omega), hval]
  exact congrArg Except.ok (UInt16.ofNat_toNat)

theorem firstOf_of_ok {α : Type} {d : Decoder α} {v : Json} {a : α} (h : d v = .ok a)
    (name : String) (rest : List (Decoder α)) : firstOf name (d :: rest) v = .ok a := by
  simp only [firstOf, h]

theorem firstOf_of_error {α : Type} {d : Decoder α} {v : Json} {e : DecodeError}
    (h : d v = .error e) (name : String) (rest : List (Decoder α)) :
    firstOf name (d :: rest) v = firstOf name rest v := by
  simp only [firstOf, h]

end Decode

namespace Scalar

/-- An integer that fits with a sign has one when it is read. -/
theorem decode_integer_of_lt {n : WideInt} (h : n.val < 0x8000000000000000) :
    decode (.integer n) = .ok (int (Int64.ofInt n.val)) := by
  have hsigned : Decode.int64 (.integer n) = .ok (Int64.ofInt n.val) := by
    rw [Decode.int64, Decode.bounded_of_mem ⟨n.lower, h⟩]
    rfl
  show Decode.firstOf _ (Decode.made int Decode.int64 :: _) (.integer n) = _
  refine Decode.firstOf_of_ok ?_ _ _
  rw [Decode.made, hsigned]
  rfl

theorem decode_integer_of_le {n : WideInt} (h : 0x8000000000000000 ≤ n.val) :
    decode (.integer n) = .ok (uint (UInt64.ofNat n.val.toNat)) := by
  have hupper := n.upper
  have hsigned : Decode.int64 (.integer n) = .error (.outOfRange n.val "i64") := by
    rw [Decode.int64, Decode.bounded, if_neg (by omega)]
    rfl
  have hunsigned : Decode.uint64 (.integer n) = .ok (UInt64.ofNat n.val.toNat) := by
    rw [Decode.uint64, Decode.bounded_of_mem ⟨by omega, hupper⟩]
    rfl
  show Decode.firstOf _ (Decode.made int Decode.int64 :: _) (.integer n) = _
  rw [Decode.firstOf_of_error (by rw [Decode.made, hsigned]; rfl)]
  refine Decode.firstOf_of_ok ?_ _ _
  rw [Decode.made, hunsigned]
  rfl

theorem decode_toJson (s : Scalar) : decode s.toJson = .ok s.canonical := by
  cases s with
  | null | bool b | text s => rfl
  | int n =>
      have hlt : (WideInt.ofInt64 n).val < 0x8000000000000000 := n.toInt_lt
      have hread := decode_integer_of_lt hlt
      rwa [show Int64.ofInt (WideInt.ofInt64 n).val = n from Int64.ofInt_toInt n] at hread
  | uint n =>
      have hval : (WideInt.ofUInt64 n).val = n.toNat := rfl
      simp only [canonical, ofUnsigned]
      split
      case isTrue h =>
        have hsigned : Int64.ofInt n.toNat = n.toInt64 := by
          calc Int64.ofInt n.toNat
            _ = Int64.ofNat n.toNat := Int64.ofInt_eq_ofNat
            _ = (UInt64.ofNat n.toNat).toInt64 := rfl
            _ = n.toInt64 := by rw [UInt64.ofNat_toNat]
        have hread := decode_integer_of_lt (n := .ofUInt64 n) (by omega)
        rwa [hval, hsigned] at hread
      case isFalse h =>
        have hread := decode_integer_of_le (n := .ofUInt64 n) (by omega)
        rwa [hval, Int.toNat_natCast, UInt64.ofNat_toNat] at hread
  | float x =>
      simp only [toJson, canonical, Json.ofBinary64, FiniteFloat.ofBinary64?]
      by_cases hx : x.isFinite = true
      · rw [dif_pos hx, if_pos hx]
        rfl
      · rw [dif_neg hx, if_neg hx]
        rfl

theorem isNull_toJson_iff (s : Scalar) : s.toJson.isNull = true ↔ s.canonical = null := by
  cases s with
  | null => exact iff_of_true rfl rfl
  | bool b | text s | int n =>
      refine iff_of_false Bool.false_ne_true ?_
      intro h
      cases h
  | uint n =>
      refine iff_of_false Bool.false_ne_true ?_
      intro h
      simp only [canonical, ofUnsigned] at h
      split at h <;> cases h
  | float x =>
      simp only [toJson, canonical, Json.ofBinary64, FiniteFloat.ofBinary64?]
      by_cases hx : x.isFinite = true
      · rw [dif_pos hx, if_pos hx]
        refine iff_of_false Bool.false_ne_true ?_
        intro h
        cases h
      · rw [dif_neg hx, if_neg hx]
        exact iff_of_true rfl rfl

end Scalar

namespace ConditionValue

theorem decode_of_scalar {v : Json} {s : Scalar} (h : Scalar.decode v = .ok s) :
    decode v = .ok (scalar s) :=
  Decode.firstOf_of_ok (by rw [Decode.made, h]; rfl) _ _

/-- An array is no scalar, so its items are. -/
theorem decode_array {items : List Json} {ss : List Scalar}
    (h : Decode.items Scalar.decode items = .ok ss) : decode (.array items) = .ok (list ss) := by
  show Decode.firstOf _ (Decode.made list (Decode.list Scalar.decode) :: _) (.array items) = _
  refine Decode.firstOf_of_ok ?_ _ _
  rw [Decode.made, Decode.list, h]
  rfl

theorem isNull_toJson_iff (v : ConditionValue) :
    v.toJson.isNull = true ↔ v.canonical = scalar .null := by
  cases v with
  | scalar s => rw [canonical, ConditionValue.scalar.injEq]; exact s.isNull_toJson_iff
  | list items | expr e =>
      refine iff_of_false Bool.false_ne_true ?_
      intro h
      cases h

end ConditionValue

namespace Codec

def string : Codec String := ⟨.string, Decode.string, id, fun _ => rfl⟩

def bool : Codec Bool := ⟨.bool, Decode.bool, id, fun _ => rfl⟩

def value : Codec Json := ⟨id, Decode.value, id, fun _ => rfl⟩

def int64 : Codec Int64 := ⟨.ofInt64, Decode.int64, id, Decode.int64_ofInt64⟩

def uint16 : Codec UInt16 := ⟨fun n => .ofNat n.toNat, Decode.uint16, id, Decode.uint16_ofNat⟩

/-- Values that are written by name. -/
def named {α : Type} (d : Decoder α) (name : α → String)
    (h : ∀ a, d (.string (name a)) = .ok a) : Codec α :=
  ⟨fun a => .string (name a), d, id, h⟩

def operator : Codec Operator :=
  named Operator.decode Operator.name (by intro op; cases op <;> rfl)

def granularity : Codec Granularity :=
  named Granularity.decode Granularity.name (by intro g; cases g <;> rfl)

def aggregation : Codec Aggregation :=
  named Aggregation.decode Aggregation.name (by intro a; cases a; rfl)

def countMode : Codec CountMode :=
  named CountMode.decode CountMode.name (by intro m; cases m <;> rfl)

def columns : Codec Columns where
  encode := Columns.toJson
  decode := Columns.decode
  canonical := id
  decode_encode c := by
    cases c with
    | expr e => rfl
    | list names =>
        have hnames := string.items_map names
        rw [show names.map string.canonical = names from List.map_id names] at hnames
        show Decode.firstOf _ (Decode.made Columns.list (Decode.list Decode.string) :: _) _ = _
        refine Decode.firstOf_of_ok ?_ _ _
        show (Decode.items Decode.string (names.map Json.string)).map Columns.list = _
        rw [show Decode.items Decode.string (names.map Json.string) = .ok names from hnames]
        rfl

def scalar : Codec Scalar := ⟨Scalar.toJson, Scalar.decode, Scalar.canonical, Scalar.decode_toJson⟩

def conditionValue : Codec ConditionValue where
  encode := ConditionValue.toJson
  decode := ConditionValue.decode
  canonical := ConditionValue.canonical
  decode_encode v := by
    cases v with
    | scalar s => exact ConditionValue.decode_of_scalar s.decode_toJson
    | list items => exact ConditionValue.decode_array (scalar.items_map items)
    | expr e => rfl

theorem plain_string : string.Plain := ⟨fun _ => rfl, fun _ => rfl⟩

theorem plain_bool : bool.Plain := ⟨fun _ => rfl, fun _ => rfl⟩

theorem plain_int64 : int64.Plain := ⟨fun _ => rfl, fun _ => rfl⟩

theorem plain_named {α : Type} {d : Decoder α} {name : α → String}
    {h : ∀ a, d (.string (name a)) = .ok a} : (named d name h).Plain :=
  ⟨fun _ => rfl, fun _ => rfl⟩

theorem plain_columns : columns.Plain where
  solid c := by cases c <;> rfl
  same _ := rfl

theorem present_conditionValue : conditionValue.present = ConditionValue.canonical? := by
  funext v
  show (if v.toJson.isNull = true then none else some v.canonical) = _
  simp only [ConditionValue.canonical?, v.isNull_toJson_iff]

end Codec

/-! ## Codecs of records -/

theorem Condition.reads (c : Condition) : Condition.record.Reads c.fields c.canonical := by
  have hvalue := Record.reads_given Codec.conditionValue .optional "value" c.value
  rw [Codec.present_conditionValue] at hvalue
  exact (Record.reads_pure Condition.mk)
    |>.add (Record.reads_plain Codec.plain_string .optional "column" c.column)
    |>.add (Record.reads_required Codec.operator "operator" c.operator)
    |>.add hvalue

def Codec.condition : Codec Condition :=
  .ofRecord Condition.record "Condition" Condition.fields Condition.canonical (by decide)
    Condition.reads

namespace Payload

/-- Conditions are an array, empty or not. -/
theorem reads_conditions (conditions : Option (List Condition)) :
    (Record.optional "conditions" (Decode.list Condition.decode)).Reads
      (given "conditions" conditionsJson conditions)
      (conditions.map (·.map Condition.canonical)) :=
  Record.reads_solid (c := Codec.condition.list) (fun _ => rfl) .optional "conditions" conditions

theorem Fetch.reads (p : Fetch) : Fetch.record.Reads p.fields p.canonical :=
  (Record.reads_pure Fetch.mk)
    |>.add (Record.reads_plain Codec.plain_string .optional _ p.viewName)
    |>.add (Record.reads_plain Codec.plain_string .optional _ p.tableName)
    |>.add (Record.reads_plain Codec.plain_columns .optional _ p.columns)
    |>.add (reads_conditions p.conditions)
    |>.add (Record.reads_plain Codec.plain_int64 .optional _ p.limit)
    |>.add (Record.reads_plain Codec.plain_int64 .optional _ p.offset)
    |>.add (Record.reads_plain Codec.plain_int64 .optional _ p.currentPage)
    |>.add (Record.reads_plain Codec.plain_int64 .optional _ p.pageSize)
    |>.add (Record.reads_plain Codec.plain_int64 .optional _ p.totalPages)
    |>.add (Record.reads_plain Codec.plain_bool .optional _ p.stripNulls)
    |>.add (Record.reads_plain Codec.plain_string .optional _ p.groupBy)
    |>.add (Record.reads_plain (c := Codec.granularity) Codec.plain_named .optional _ p.granularity)
    |>.add (Record.reads_plain Codec.plain_string .optional _ p.aggregationColumn)
    |>.add (Record.reads_plain (c := Codec.aggregation) Codec.plain_named .optional _ p.aggregation)
    |>.add (Record.reads_plain Codec.plain_bool .optional _ p.aggregationDedup)

theorem Insert.reads (p : Insert) : Insert.record.Reads p.fields p.canonical :=
  (Record.reads_pure Insert.mk)
    |>.add (Record.reads_required Codec.string "table_name" p.tableName)
    |>.add (Record.reads_required Codec.value "insert_body" p.insertBody)
    |>.add (Record.reads_given Codec.value .optional _ p.updateBody)
    |>.add (Record.reads_plain Codec.plain_columns .optional _ p.columns)
    |>.add (Record.reads_plain (c := Codec.countMode) Codec.plain_named .optional _ p.count)
    |>.add (Record.reads_plain Codec.plain_bool .optional _ p.head)
    |>.add (Record.reads_plain Codec.plain_bool .optional _ p.defaultToNull)
    |>.add (Record.reads_plain Codec.plain_columns .optional _ p.onConflict)

theorem Update.reads (p : Update) : Update.record.Reads p.fields p.canonical :=
  (Record.reads_pure Update.mk)
    |>.add (Record.reads_required Codec.string "table_name" p.tableName)
    |>.add (Record.reads_required Codec.value "update_body" p.updateBody)
    |>.add (reads_conditions p.conditions)
    |>.add (Record.reads_plain Codec.plain_columns .optional _ p.columns)
    |>.add (Record.reads_plain Codec.plain_bool .optional _ p.stripNulls)

theorem Delete.reads (p : Delete) : Delete.record.Reads p.fields p.canonical :=
  (Record.reads_pure Delete.mk)
    |>.add (Record.reads_required Codec.string "table_name" p.tableName)
    |>.add (Record.reads_plain Codec.plain_string .optional _ p.resourceId)
    |>.add (reads_conditions p.conditions)
    |>.add (Record.reads_plain Codec.plain_columns .optional _ p.columns)

theorem Fetch.decode_toJson (p : Fetch) : decode (Request.fetch p).toJson = .ok p.canonical :=
  p.reads.decode (by decide) "FetchPayload"

theorem Insert.decode_toJson (p : Insert) : decode (Request.insert p).toJson = .ok p.canonical :=
  p.reads.decode (by decide) "InsertPayload"

theorem Update.decode_toJson (p : Update) : decode (Request.update p).toJson = .ok p.canonical :=
  p.reads.decode (by decide) "UpdatePayload"

theorem Delete.decode_toJson (p : Delete) : decode (Request.delete p).toJson = .ok p.canonical :=
  p.reads.decode (by decide) "DeletePayload"

end Payload

namespace Request

/-- Reads the body of a request to an endpoint. -/
def decode : Endpoint → Decoder Request
  | .fetch, v => (Payload.Fetch.decode v).map fetch
  | .insert, v => (Payload.Insert.decode v).map insert
  | .update, v => (Payload.Update.decode v).map update
  | .delete, v => (Payload.Delete.decode v).map delete

theorem decode_toJson (r : Request) : decode r.endpoint r.toJson = .ok r.canonical := by
  cases r with
  | fetch p => exact congrArg (Except.map fetch) p.decode_toJson
  | insert p => exact congrArg (Except.map insert) p.decode_toJson
  | update p => exact congrArg (Except.map update) p.decode_toJson
  | delete p => exact congrArg (Except.map delete) p.decode_toJson

/-- One JSON form comes from requests of one canonical form only. -/
theorem canonical_eq_of_toJson {r r' : Request} (hendpoint : r.endpoint = r'.endpoint)
    (h : r.toJson = r'.toJson) : r.canonical = r'.canonical := by
  have hread := r.decode_toJson
  rw [hendpoint, h, r'.decode_toJson] at hread
  exact (Except.ok.inj hread).symm

end Request

/-! ## Responses and results -/

theorem Response.reads (r : Response) : Response.record.Reads r.fields r.canonical := by
  have hdata := Record.reads_orNull Codec.value .positional "data" r.data
  have herror := Record.reads_orNull Codec.string .positional "error" r.error
  rw [show r.data.map Codec.value.encode = r.data from Option.map_id_fun ▸ rfl] at hdata
  rw [Codec.plain_string.bind] at herror
  exact (Record.reads_pure Response.mk)
    |>.add (Record.reads_required Codec.bool "ok" r.ok)
    |>.add (Record.reads_required Codec.uint16 "status" r.status)
    |>.add hdata
    |>.add herror
    |>.add (Record.reads_required Codec.value "raw" r.raw)

namespace Result

variable {α : Type}

theorem nodup_names (d : Decoder α) : (recordOf d).names.Nodup := by
  have hnames : (recordOf d).names = ["data", "error", "status", "raw"] := rfl
  rw [hnames]
  decide

/-- A result keeps all but data that is written as null. -/
theorem reads (c : Codec α) (r : Result α) :
    (recordOf c.decode).Reads (r.fieldsBy c.encode) { r with data := r.data.bind c.present } := by
  have herror := Record.reads_orNull Codec.string .positional "error" r.error
  rw [Codec.plain_string.bind] at herror
  exact (Record.reads_pure Result.mk)
    |>.add (Record.reads_orNull c .positional "data" r.data)
    |>.add herror
    |>.add (Record.reads_required Codec.uint16 "status" r.status)
    |>.add (Record.reads_required Codec.value "raw" r.raw)

end Result

/-- Every payload, whatever its fields are, reads from its JSON form as its
canonical form; writing it never fails, and payloads of an endpoint with one JSON
form have one canonical form.  Responses and results read as they are, but for
data that is null. -/
theorem wire_round_trip :
    (∀ p : Payload.Fetch, Payload.Fetch.decode (Request.fetch p).toJson = .ok p.canonical) ∧
    (∀ p : Payload.Insert, Payload.Insert.decode (Request.insert p).toJson = .ok p.canonical) ∧
    (∀ p : Payload.Update, Payload.Update.decode (Request.update p).toJson = .ok p.canonical) ∧
    (∀ p : Payload.Delete, Payload.Delete.decode (Request.delete p).toJson = .ok p.canonical) ∧
    (∀ r : Request, r.serialize = .ok r.toJson) ∧
    (∀ r r' : Request, r.endpoint = r'.endpoint → r.toJson = r'.toJson →
      r.canonical = r'.canonical) ∧
    (∀ r : Response, Response.decode (.ofFields r.fields) = .ok r.canonical) ∧
    (∀ r : Result Json, Result.decodeSelf (.ofFields r.fields)
      = .ok { r with data := r.data.bind Json.nonNull? }) ∧
    ∀ (α : Type) (c : Codec α) (r : Result α),
      Result.decodeBy c.decode (.ofFields (r.fieldsBy c.encode))
        = .ok { r with data := r.data.bind c.present } := by
  have hresult : ∀ (α : Type) (c : Codec α) (r : Result α),
      Result.decodeBy c.decode (.ofFields (r.fieldsBy c.encode))
        = .ok { r with data := r.data.bind c.present } := by
    intro α c r
    exact (r.reads c).decode (Result.nodup_names c.decode) "QueryResult"
  refine ⟨Payload.Fetch.decode_toJson, Payload.Insert.decode_toJson, Payload.Update.decode_toJson,
    Payload.Delete.decode_toJson, Request.serialize_eq, ?_, ?_, ?_, hresult⟩
  · intro r r' hendpoint h
    exact Request.canonical_eq_of_toJson hendpoint h
  · intro r
    exact r.reads.decode (by decide) "GatewayResponse"
  · intro r
    exact hresult Json Codec.value r

/-- A deletion of the users with a value for their name. -/
def namedDeletion (v : ConditionValue) : Request :=
  .delete
    { tableName := "users"
      conditions := some [{ column := some "name", operator := .eq, value := some v }] }

/-- An expression and a text are written alike, and the two deletions have one
canonical form. -/
theorem wire_round_trip_expression :
    (namedDeletion (.expr "ada")).toJson = (namedDeletion (.scalar (.text "ada"))).toJson ∧
      (namedDeletion (.expr "ada")).canonical
        = (namedDeletion (.scalar (.text "ada"))).canonical := by
  have hwritten : (namedDeletion (.expr "ada")).toJson
      = (namedDeletion (.scalar (.text "ada"))).toJson := rfl
  obtain ⟨-, -, -, -, -, hcanonical, -⟩ := wire_round_trip
  exact ⟨hwritten, hcanonical _ _ rfl hwritten⟩

end TableGateway
