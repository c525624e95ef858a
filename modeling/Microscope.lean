import Microscope.Polling.Coverage
import Microscope.Polling.Suppression
import Microscope.Polling.Boundary
import Microscope.Polling.Agreement
import Microscope.Polling.Discovery
import Microscope.Polling.Quarantine
import Microscope.Polling.Trackers
import Microscope.Polling.Availability
import Microscope.Polling.Durability
import Microscope.Polling.Turns
import Microscope.Polling.Failing
import Microscope.Polling.Refusing
import Microscope.Polling.Draining
import Microscope.Polling.Mismatches
import Microscope.Polling.Restoring
import Microscope.Polling.Reemission
import Microscope.Polling.Losses
import Microscope.Polling.Handover
import Microscope.Polling.Restarts
import Microscope.Shipped.Continuing
import Microscope.Signals.Emission
import Microscope.Alerting.Thresholds
import Microscope.Alerting.Meaning
import Microscope.Alerting.Paging
import Microscope.Events.Records
import Microscope.Events.Recent
import Microscope.Redaction
import Microscope.Dashboard
import Microscope.Deploy.Convergence
import Microscope.Backfill.Duration
import Microscope.Backfill.Wrapping
