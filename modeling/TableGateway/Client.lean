/-
Clients: default options with a transport.
-/
import TableGateway.Http.Carrier
import TableGateway.Query

namespace TableGateway

/-- A client of the gateway over HTTP. -/
structure Client (κ : Type) where
  /-- The options under those of every call. -/
  defaults : Options
  carrier : Http.Carrier κ

namespace Client

variable {κ ν υ : Type}

/-- A client for a gateway at an address with a key.  An address or a key in the
options takes the place of these. -/
def create (net : Http.Network κ ν υ) (url key : String) (o : Options) :
    Except Error (Client κ) := do
  let defaults := Options.merge { baseUrl := some url, apiKey := some key } o
  let carrier ← Http.Carrier.create net { baseUrl := defaults.baseUrl.getD "" }
  return { defaults, carrier }

/-- A query without clauses on a table. -/
def table (c : Client κ) (name : String) : Query := .fresh name c.defaults

end Client

end TableGateway
