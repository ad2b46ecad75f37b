import FailoverControl.Main
import FailoverControl.Control.Surroundings
import FailoverControl.Rpc.Sharing
import FailoverControl.Proofs.App.Deadline
import FailoverControl.Proofs.App.NewerDaemon
import FailoverControl.Proofs.App.Precedence
import FailoverControl.Proofs.App.Wording
import FailoverControl.Proofs.Control.Connection
import FailoverControl.Proofs.Control.Decision
import FailoverControl.Proofs.Control.PeerFailure
import FailoverControl.Proofs.Control.Plan
import FailoverControl.Proofs.Control.Reboot
import FailoverControl.Proofs.Control.ReportLines
import FailoverControl.Proofs.Daemon.Reporting
import FailoverControl.Proofs.Operator.Turns
import FailoverControl.Proofs.Rpc.Correlation
import FailoverControl.Proofs.Rpc.Deciding
import FailoverControl.Proofs.Rpc.FaultText
import FailoverControl.Proofs.Rpc.Unrelated
import FailoverControl.Proofs.Json.CompactText
import FailoverControl.Proofs.Rpc.Received
