/-
Options of a call, and how layers of options are merged.

Options come in layers: those of the client, those of an operation and those of
its refinement.  A later layer wins, field by field.  Extra headers are merged
name by name, and merging writes all names in lowercase.
-/
import TableGateway.Decode.Basic

namespace TableGateway

/-- How rows are to be counted. -/
inductive CountMode where
  | exact
  | planned
  | estimated
deriving DecidableEq

namespace CountMode

def name : CountMode → String
  | exact => "exact"
  | planned => "planned"
  | estimated => "estimated"

def all : List CountMode := [exact, planned, estimated]

def decode : Decoder CountMode :=
  Decode.oneOf (all.map fun m => (m.name, m))

end CountMode

/-- The options of one layer; what is `none` is left to the layers before. -/
structure Options where
  baseUrl : Option String := none
  client : Option String := none
  apiKey : Option String := none
  /-- Whether null fields are dropped from rows. -/
  stripNulls : Option Bool := none
  supabaseUrl : Option String := none
  supabaseKey : Option String := none
  publishEvent : Option String := none
  /-- Extra headers of the request. -/
  headers : SortedMap String := ∅
  userId : Option String := none
  companyId : Option String := none
  organizationId : Option String := none
  count : Option CountMode := none
  /-- Whether only the head of the answer is wanted. -/
  head : Option Bool := none
  /-- Whether columns missing from inserted rows are null instead of their defaults. -/
  defaultToNull : Option Bool := none
deriving DecidableEq, Inhabited

namespace Options

/-- Adds a header under the lowercase form of its name. -/
def header (o : Options) (name value : String) : Options :=
  { o with headers := o.headers.insert name.toLower value }

/-- The headers of two layers under lowercase names, the later layer winning.
Of several spellings in one layer the last in key order wins. -/
def mergeHeaders (base later : SortedMap String) : SortedMap String :=
  SortedMap.ofList ((base.entries ++ later.entries).map fun p => (p.1.toLower, p.2))

/-- Lays options over others. -/
def merge (base later : Options) : Options where
  baseUrl := later.baseUrl.or base.baseUrl
  client := later.client.or base.client
  apiKey := later.apiKey.or base.apiKey
  stripNulls := later.stripNulls.or base.stripNulls
  supabaseUrl := later.supabaseUrl.or base.supabaseUrl
  supabaseKey := later.supabaseKey.or base.supabaseKey
  publishEvent := later.publishEvent.or base.publishEvent
  headers := mergeHeaders base.headers later.headers
  userId := later.userId.or base.userId
  companyId := later.companyId.or base.companyId
  organizationId := later.organizationId.or base.organizationId
  count := later.count.or base.count
  head := later.head.or base.head
  defaultToNull := later.defaultToNull.or base.defaultToNull

/-- Merges layers from the weakest to the strongest; absent layers are skipped. -/
def mergeAll (layers : List (Option Options)) : Options :=
  (layers.filterMap id).foldl merge {}

/-- Whether null fields are dropped: they are unless a layer says otherwise. -/
def stripsNulls (o : Options) : Bool :=
  o.stripNulls.getD true

end Options

end TableGateway
