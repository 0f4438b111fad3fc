import Demarcation.ConnectedUnit
import Demarcation.Component
import Demarcation.Pipeline.Request
import Demarcation.Rehearsal.Stage
import Demarcation.Proofs.Conduct
import Demarcation.Proofs.Bindings
import Demarcation.Proofs.Custody
import Demarcation.Proofs.Effects
import Demarcation.Proofs.Invocation
import Demarcation.Proofs.Deliveries
import Demarcation.Proofs.Lifetime
import Demarcation.Proofs.Interruption
import Demarcation.Proofs.CallOrder
import Demarcation.Proofs.Applications
import Demarcation.Proofs.Agreement
import Demarcation.Proofs.Ledger
import Demarcation.Proofs.Discipline
import Demarcation.Proofs.Interleaving
import Demarcation.Proofs.Forwarding
import Demarcation.Proofs.Course
import Demarcation.Proofs.Registrations
import Demarcation.Proofs.Routing
import Demarcation.Proofs.Window
import Demarcation.Proofs.Sessions
import Demarcation.Proofs.Renaming
import Demarcation.Proofs.Parties
import Demarcation.Proofs.Surroundings
import Demarcation.Proofs.Isolation
import Demarcation.Proofs.Reaching
import Demarcation.Proofs.Exchanges
import Demarcation.Proofs.Orders
import Demarcation.Proofs.Transactions
import Demarcation.Proofs.Visits
import Demarcation.Proofs.Endings
import Demarcation.Proofs.Serving
import Demarcation.Proofs.ReadOnly
import Demarcation.Proofs.Keeping
import Demarcation.Proofs.Checkups
import Demarcation.Proofs.Enrolment
import Demarcation.Proofs.Clients
import Demarcation.Proofs.Overlap
import Demarcation.Proofs.Refusals
import Demarcation.Proofs.Spelling
import Demarcation.Proofs.Readings
import Demarcation.Proofs.Documents
import Demarcation.Proofs.RoundTrips
import Demarcation.Proofs.Errands
import Demarcation.Proofs.Connecting
import Demarcation.Proofs.TypedCalls
import Demarcation.Proofs.Ways
import Demarcation.Proofs.Outcomes
import Demarcation.Proofs.Templates
import Demarcation.Proofs.Deadlines
import Demarcation.Proofs.Declaring
import Demarcation.Proofs.Pipelines
