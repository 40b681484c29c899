/-
The network, as the HTTP transport uses it.

Of what lies between a call and the gateway this says nothing but how it is used: a
client is built from settings, a message is handed over, and after some polls there
is an answer or the reason why there is none.  Whatever builds the client, reads the
address, opens the connection and answers is a `Network`.
-/
import TableGateway.Http.Config
import TableGateway.Http.Field
import TableGateway.Response

namespace TableGateway

/-- What came of a call: an answer with the text of its body, or a failure. -/
inductive Reception where
  | answered (status : UInt16) (text : String)
  | failed (message : String)

def Reception.response : Reception → Response
  | answered status text => .ofBody status (Response.bodyOfText text)
  | failed message => .networkFailure message

namespace Http

/-- A message that is handed to the network. -/
structure Outgoing where
  method : String
  url : String
  headers : Headers
  body : String

/-- What the HTTP transport relies on, with clients of type `κ`, a state of type `ν` and
tickets of type `υ`. -/
structure Network (κ ν υ : Type) where
  /-- Which headers a message can have. -/
  rules : FieldRules
  /-- Builds a client, or says why there is none with these settings. -/
  build : Settings → Except String κ
  /-- Takes a message from a client. -/
  send : κ → Outgoing → ν → ν × υ
  /-- How many polls after the first find no answer. -/
  polls : υ → Nat
  /-- The time from the first poll to the answer. -/
  elapsed : υ → Duration
  finish : υ → ν → ν × Reception

/-- The network that answers from a list, and hangs up when nothing is left of it.  A client
has to have a user agent that can be sent. -/
def Network.scripted : Network Settings (List Reception) Reception where
  rules := .standard
  build settings :=
    if settings.userAgent.all isFieldValue then .ok settings else .error "builder error"
  send _ out answers :=
    let hangUp := Reception.failed ("error sending request for url (" ++ out.url ++ ")")
    (answers.tail, answers.head?.getD hangUp)
  polls _ := 1
  elapsed _ := .zero
  finish reception answers := (answers, reception)

end Http

end TableGateway
