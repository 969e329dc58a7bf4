import Muster.Config.Whole
import Muster.Lifecycle
import Muster.Logging.Filter
import Muster.Proofs.Balancer
import Muster.Proofs.Closing
import Muster.Proofs.Leased.Configured
import Muster.Proofs.Leased.Degraded
import Muster.Proofs.Leased.Deregistration
import Muster.Proofs.Leased.Forcing
import Muster.Proofs.Leased.Health
import Muster.Proofs.Leased.Namespaces
import Muster.Proofs.Leased.OwnKey
import Muster.Proofs.Leased.Publishing
import Muster.Proofs.Leased.Tasks
import Muster.Proofs.Overtaken
import Muster.Proofs.Probed.Mirror
import Muster.Proofs.Probed.GivingUp
import Muster.Proofs.Probed.Degraded
import Muster.Proofs.Probed.Clock
import Muster.Proofs.Probed.Patience
import Muster.Proofs.Probed.Cold
import Muster.Proofs.Probed.Paths
import Muster.Proofs.Removal
import Muster.Proofs.Resolving.Conduct
import Muster.Proofs.Resolving.Targets
import Muster.Proofs.Starving
import Muster.Proofs.Watching
import Muster.Rehearsal.HealthStore
import Muster.Rehearsal.LeaseStore
import Muster.Rehearsal.Resolving
import Muster.Rehearsal.Service
import Muster.Resolver.Channel
import Muster.Proofs.Leased.Sending
import Muster.Proofs.Leased.Snapshots
import Muster.Proofs.Leased.Streams
import Muster.Proofs.Leased.Origins
import Muster.Proofs.Leased.Names
import Muster.Proofs.Leased.Healing
import Muster.Proofs.Leased.Registering
import Muster.Proofs.Timed
import Muster.Proofs.Leased.Clock
import Muster.Proofs.Leased.Schedule
import Muster.Proofs.Leased.Endings
import Muster.Proofs.Leased.Restoring
import Muster.Proofs.Leased.Subscriptions
import Muster.Proofs.Probed.Sending
import Muster.Proofs.Pace
import Muster.Proofs.Probed.Scopes
import Muster.Proofs.Endpoints
import Muster.Proofs.Probed.Severity
import Muster.Proofs.Resolving.Joining
import Muster.Proofs.Accounts
import Muster.Duration.Words
import Muster.Proofs.Backoff
