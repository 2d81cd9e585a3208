import HibikiCore.Persistence.Database
import HibikiCore.Domain.Plan
import HibikiCore.Domain.Acyclic
import HibikiCore.Domain.Depth
import HibikiCore.Application.Decisions
import HibikiCore.Application.Plans
import HibikiCore.Application.Planner
import HibikiCore.Application.Results
import HibikiCore.Application.Control
import HibikiCore.Application.Effects
import HibikiCore.Application.Command
import HibikiCore.Application.Reconcile
import HibikiCore.Safety.AtMostOnce
import HibikiCore.Safety.Cancellation
import HibikiCore.Safety.Results
import HibikiCore.Safety.Gates
import HibikiCore.Safety.Applying
import HibikiCore.Safety.Versions
import HibikiCore.Safety.Runnable
import HibikiCore.Safety.Plans
import HibikiCore.Safety.Acceptances
import HibikiCore.Safety.Limits
import HibikiCore.Safety.Generations
import HibikiCore.Safety.Definitions
import HibikiCore.Safety.DeadRuns
import HibikiCore.Safety.LostRuns
import HibikiCore.Safety.Evidence
import HibikiCore.Safety.Verdicts
import HibikiCore.Safety.Budgets
import HibikiCore.Safety.Pauses
import HibikiCore.Safety.Logs
import HibikiCore.Safety.Replays
import HibikiCore.Safety.Expiry
import HibikiCore.Safety.Inputs
import HibikiCore.Safety.Workspaces
import HibikiCore.Safety.Fencing
import HibikiCore.Tools.Broker
import HibikiCore.Tools.Audit
import HibikiCore.Tools.Paths
import HibikiCore.Tools.Writing
import HibikiCore.Runtime.Adapters
import HibikiCore.Runtime.Revocation
import HibikiCore.Runtime.Publication
import HibikiCore.Runtime.Objects
import HibikiCore.Runtime.Markers
import HibikiCore.Runtime.Reporting
import HibikiCore.Runtime.Redaction
import HibikiCore.Tools.Sandbox
import HibikiCore.Application.Materializing
import HibikiCore.Safety.Draining
import HibikiCore.Safety.Contexts
import HibikiCore.Safety.Alignment
import HibikiCore.Safety.Holding
import HibikiCore.Safety.Deliveries
import HibikiCore.Safety.Repairs
import HibikiCore.Safety.Tasks
import HibikiCore.Safety.Launches
import HibikiCore.Safety.Schedules
import HibikiCore.Safety.Warrants
import HibikiCore.Safety.Authorisation
import HibikiCore.Concurrency.Activity
import HibikiCore.Runtime.Protocol
import HibikiCore.Safety.Settling
import HibikiCore.Safety.Completion
