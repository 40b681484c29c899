/-
The headers of a request, computed from the options of its call.

Names are lowercase.  Extra headers come last, so they take the place of a
computed header of the same name; an empty value sets nothing.
-/
import TableGateway.Options

namespace TableGateway

/-- The headers of a request by name. -/
abbrev Headers := SortedMap String

namespace Headers

/-- The client that requests name when the options name none. -/
def defaultClient : String := "railway_direct"

/-- The value, unless it is absent or empty. -/
def nonEmpty (value : Option String) : Option String :=
  value.filter (· ≠ "")

/-- A header of that name if there is a value that is not empty. -/
def whenSet (name : String) (value : Option String) : List (String × String) :=
  ((nonEmpty value).map fun v => (name, v)).toList

/-- The headers that the fields of the options call for. -/
def computed (o : Options) : List (String × String) :=
  [("content-type", "application/json")]
    ++ whenSet "x-user-id" o.userId
    ++ whenSet "x-company-id" o.companyId
    ++ whenSet "x-organization-id" o.organizationId
    ++ whenSet "x-athena-client" (some (o.client.getD defaultClient))
    ++ [("x-strip-nulls", if o.stripsNulls then "true" else "false")]
    ++ whenSet "x-publish-event" o.publishEvent
    ++ whenSet "apikey" o.apiKey
    ++ whenSet "x-api-key" o.apiKey
    ++ whenSet "x-supabase-url" o.supabaseUrl
    ++ whenSet "x-supabase-key" o.supabaseKey

/-- The extra headers that are not empty, under lowercase names. -/
def extra (o : Options) : List (String × String) :=
  (o.headers.entries.filter fun p => p.2 ≠ "").map fun p => (p.1.toLower, p.2)

/-- The headers of a call with the given options. -/
def ofOptions (o : Options) : Headers :=
  SortedMap.ofList (computed o ++ extra o)

end Headers

end TableGateway
