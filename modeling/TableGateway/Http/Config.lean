/-
Settings of the HTTP transport.
-/
import TableGateway.Duration
import TableGateway.Endpoint
import TableGateway.Options

namespace TableGateway.Http

/-- What a client of the network is built with. -/
structure Settings where
  /-- The time that a whole call may take. -/
  timeout : Option Duration := none
  /-- The time that connecting may take. -/
  connectTimeout : Option Duration := none
  /-- The value of the user agent header. -/
  userAgent : Option String := some "athena-rs/0.3.0"
deriving DecidableEq

/-- How the HTTP transport is set up. -/
structure Config extends Settings where
  /-- The base address of calls whose options name none. -/
  baseUrl : String := "https://athena-db.com"
deriving DecidableEq

namespace Config

/-- The address of an endpoint for a call with the given options. -/
def url (c : Config) (e : Endpoint) (o : Options) : String :=
  e.url (o.baseUrl.getD c.baseUrl)

end Config

end TableGateway.Http
