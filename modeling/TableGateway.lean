import TableGateway.Session
import TableGateway.Describe
import TableGateway.Http.Carrier
import TableGateway.Client
import TableGateway.Observe.Instrument
import TableGateway.Proofs.SingleFlight
import TableGateway.Proofs.FirstTrigger
import TableGateway.Proofs.Preview
import TableGateway.Proofs.Departure
import TableGateway.Proofs.Snapshot
import TableGateway.Proofs.Clauses
import TableGateway.Proofs.BoundedDelete
import TableGateway.Proofs.Precedence
import TableGateway.Proofs.Merging
import TableGateway.Proofs.HeaderTable
import TableGateway.Proofs.Spelling
import TableGateway.Proofs.Normalization
import TableGateway.Proofs.Verdict
import TableGateway.Proofs.Codec
import TableGateway.Proofs.RoundTrip
import TableGateway.Proofs.Exchanges
import TableGateway.Proofs.Observation
import TableGateway.Proofs.Veil
import TableGateway.Proofs.Credentials
import TableGateway.Proofs.Replay
import TableGateway.Proofs.FilterValues
import TableGateway.Proofs.StripNulls
import TableGateway.Proofs.Watch
import TableGateway.Proofs.Loading
import TableGateway.Proofs.Statistics
import TableGateway.Proofs.Refusal
import TableGateway.Proofs.Latest
import TableGateway.Proofs.Slowest
import TableGateway.Proofs.Delivery
import TableGateway.Proofs.Sharing
import TableGateway.Proofs.BlankRows
import TableGateway.Proofs.Negation
import TableGateway.Proofs.Collapse
import TableGateway.Proofs.Abridging
