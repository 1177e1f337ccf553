import Bacchus.Client.Reporting
import Bacchus.Client.Handover
import Bacchus.Admission.Separation
import Bacchus.Coordinator.PolicyRefresh
import Bacchus.Coordinator.Redemption
import Bacchus.Coordinator.Dedupe
import Bacchus.Netd.Lockdown
import Bacchus.Netd.Restoration
import Bacchus.Device.OneKey
import Bacchus.Coordinator.SingleUse
import Bacchus.Coordinator.SignedSource
import Bacchus.Coordinator.Idempotence
import Bacchus.Capacity.Cycle
import Bacchus.Capacity.Metering
import Bacchus.Chain.Forwarding
import Bacchus.Coordinator.CountryList
import Bacchus.Chain.Recovery
import Bacchus.Capacity.Rating
import Bacchus.Delegation.Separation
import Bacchus.Coordinator.SelfReports
import Bacchus.Account.Enrolment
import Bacchus.Client.WindingDown
import Bacchus.Accounting.Ledger
import Bacchus.Engine.Ladder
import Bacchus.Engine.Signalling
import Bacchus.Client.Closing
import Bacchus.Netd.Verdicts
import Bacchus.Netd.Ending
import Bacchus.Update.Failures
import Bacchus.Chain.Rebuilding
import Bacchus.Coldstart.Invite
import Bacchus.Engine.Starting
