import TxForge.Tester
import TxForge.Chain.Node
import TxForge.Proofs.Interview
import TxForge.Proofs.Population
import TxForge.Proofs.Complete
import TxForge.Proofs.Provenance
import TxForge.Proofs.Production
import TxForge.Proofs.QueryOrder
import TxForge.Proofs.Validation
import TxForge.Proofs.Verdict
import TxForge.Proofs.Wire
import TxForge.Proofs.ArgsText
import TxForge.Proofs.CallText
import TxForge.Factory.Call
import TxForge.Proofs.Passages
import TxForge.Proofs.Estimation
import TxForge.Proofs.Bookkeeping
import TxForge.Proofs.Wording
import TxForge.Proofs.Interchange
import TxForge.Proofs.GasCap
import TxForge.Proofs.Messages
import TxForge.Proofs.Acceptance
import TxForge.Proofs.Malleability
import TxForge.Proofs.Defaulting
import TxForge.Proofs.Reordering
import TxForge.Proofs.Record
import TxForge.Proofs.Pricing
import TxForge.Proofs.Headroom
import TxForge.Proofs.Assembly
import TxForge.Proofs.Causes
import TxForge.Proofs.Amounts
