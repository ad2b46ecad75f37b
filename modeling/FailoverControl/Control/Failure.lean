import FailoverControl.Control.Guard
import FailoverControl.Daemon.CallError

/-!
# Why a command fails

Everything that ends a run without success. `Failure.message` is what the operator sees, and
`Failure.sources` lists the wordings of the causes below it, the nearest first.
-/

set_option autoImplicit false

namespace FailoverControl.Control

open FailoverControl.Daemon (CallError)
open FailoverControl.Host (IoError)

/-- Why a command fails. -/
inductive Failure where
  | connectionSetup (cause : Rpc.Failure)
  | notHaNode
  | fetch (what : String) (cause : CallError)
  | rejected (rejection : Rejection)
  | mutation (cause : CallError)
  | cancelled (action : Action)
  | reboot (cause : IoError)
deriving DecidableEq, Repr

/-- The wording of a failure. -/
def Failure.message : Failure → String
  | .connectionSetup cause =>
    "Unexpected failure enumerating websocket client: " ++ cause.message
  | .notHaNode => "Node status: " ++ Cluster.Role.describe .notHA
  | .fetch what cause => "Failed to fetch " ++ what ++ ": " ++ cause.message
  | .rejected rejection => rejection.message
  | .mutation cause => cause.message
  | .cancelled action => "Command: '" ++ action.name ++ "' cancelled."
  | .reboot cause => "Failed to reboot this node: " ++ cause.message

/-- The wordings of the causes of a failure. -/
def Failure.sources : Failure → List String
  | .connectionSetup cause => cause.message :: cause.sources
  | .fetch _ cause => [cause.message]
  | .mutation cause => [cause.message]
  | .reboot cause => [cause.message]
  | .notHaNode => []
  | .rejected _ => []
  | .cancelled _ => []

end FailoverControl.Control
