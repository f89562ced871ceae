import Handover.Main
import Handover.Proofs.Acceptance
import Handover.Proofs.Agenda
import Handover.Proofs.Identity
import Handover.Proofs.Locality
import Handover.Proofs.Process
import Handover.Proofs.Rearrangement
import Handover.Proofs.Triggers
import Handover.Proofs.Cluster.Phases
import Handover.Proofs.Cluster.Amendments
import Handover.Proofs.Cluster.Consistency
import Handover.Proofs.Cluster.Stages
import Handover.Proofs.Cluster.Requests
import Handover.Proofs.Cluster.Ownership
import Handover.Proofs.Cluster.Convergence
import Handover.Proofs.Cluster.Reordering
import Handover.Proofs.Accounting
import Handover.Proofs.Cluster.Writers
import Handover.Proofs.Cluster.Violations
import Handover.Proofs.Cluster.Intents
import Handover.Proofs.Cluster.Restarts
import Handover.Proofs.Json.Scalars
import Handover.Proofs.Json.Reading
import Handover.Proofs.Json.Lawful
import Handover.Proofs.Json.Data
import Handover.Proofs.Decisions
import Handover.Proofs.Json.Settings
import Handover.Proofs.Json.Grammar
import Handover.Proofs.Json.Skipping
import Handover.Proofs.Json.Listing
import Handover.Proofs.Json.Overlay
import Handover.Proofs.Queueing
import Handover.Proofs.Cells
import Handover.Proofs.Refusals
import Handover.Proofs.QueueSession
import Handover.Proofs.Duration
import Handover.Proofs.Cluster.WorkerEntities
import Handover.Proofs.Cluster.Buckets
import Handover.Proofs.Readiness
