import Counterparty.Replay
import Counterparty.Reconstruct
import Counterparty.Preference
import Counterparty.BestExecution
import Counterparty.SnapshotReads
import Counterparty.Tamper
import Counterparty.Arena.Isolation
import Counterparty.Arena.Resend
import Counterparty.Arena.Canary
import Counterparty.Arena.Grammar
import Counterparty.Arena.Memo
import Counterparty.Arena.Fingerprint
import Counterparty.Arena.Grants
import Counterparty.Arena.TrustedDelivery
import Counterparty.Library.Translation
import Counterparty.Arena.Wire
import Counterparty.Arena.Undeliverable
import Counterparty.Utility
import Counterparty.Aggregate
import Counterparty.AssertionPath
import Counterparty.ContractEquality
import Counterparty.Library.JsonMentions
import Counterparty.Markers
import Counterparty.Arena.Conversion
import Counterparty.Arena.CanaryPolling
import Counterparty.Library.JsonCanonical
import Counterparty.PyObject
import Counterparty.AuditPayload
import Counterparty.Arena.Contacts
import Counterparty.Arena.Accounting
import Counterparty.Arena.Batch
import Counterparty.Arena.Saved
import Counterparty.Availability
import Counterparty.Provenance
import Counterparty.CanaryVerdict
import Counterparty.AppSpec
import Counterparty.AuditPages
import Counterparty.Latency
import Counterparty.Arena.DeliveryBody
