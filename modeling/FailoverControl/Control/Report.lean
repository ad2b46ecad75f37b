import FailoverControl.Control.Inquiry

/-!
# The status report

The role of this node, the serial numbers of both nodes and the reasons for disabled failover, a
line each. One reason stands on the line of the failover status, several ones are numbered below
it. A serial number that could not be had is replaced by the reason why, so only a failed fetch of
the reasons fails the report.
-/

set_option autoImplicit false

namespace FailoverControl.Control

open FailoverControl.Cluster
open FailoverControl.Daemon
open FailoverControl.Host (IoError)

/-- Why the other node's serial number could not be had. -/
def describePeerFailure (error : CallError) (options : CallOptions) : String :=
  match error with
  | .connectFailure =>
    "Failed to connect to remote node after " ++
      Decimal.text options.connectTimeout.seconds ++ " seconds."
  | .timeout =>
    "Timed out after " ++ Decimal.text options.timeout.seconds ++
      " seconds waiting on response from remote node."
  | .other message => message

/-- The lines of several reasons, numbered from `index` on. -/
def numberedReasons : (index : Nat) → List Reason → List String
  | _, [] => []
  | index, reason :: rest =>
    ("    " ++ Decimal.text index ++ ": " ++ reason.describe) :: numberedReasons (index + 1) rest

/-- The lines on the reasons for disabled failover. -/
def reasonLines : List Reason → List String
  | [] => ["Failover status: Failover is healthy."]
  | [reason] => ["Failover status: " ++ reason.describe]
  | reasons => "Failover status: " :: numberedReasons 1 reasons

/-- What the report is made of. -/
structure Report where
  role : Role
  serial : Except IoError String
  peerSerial : Except CallError String
  options : CallOptions
  reasons : List Reason

namespace Report

/-- The serial number of this node as the report shows it. -/
def serialText (report : Report) : String :=
  match report.serial with
  | .ok serial => serial
  | .error e => "Unknown (" ++ e.message ++ ")"

/-- The serial number of the other node as the report shows it. -/
def peerSerialText (report : Report) : String :=
  match report.peerSerial with
  | .ok serial => serial
  | .error e => describePeerFailure e report.options

/-- The lines of a report; the last one is empty. -/
def lines (report : Report) : List String :=
  ["Node status: " ++ report.role.describe,
    "This node serial: " ++ report.serialText,
    "Other node serial: " ++ report.peerSerialText] ++ reasonLines report.reasons ++ [""]

/-- The text of a report, each line ended by a line feed. -/
def text (report : Report) : String :=
  String.join (report.lines.map (· ++ "\n"))

end Report

/-- Gathers a report on a node of the given role. -/
def gatherReport (role : Role) (options : CallOptions) : Task Failure Report := do
  let serial ← ExceptT.lift (Procedure.request .serial)
  let peerSerial ← ExceptT.lift (fetchPeerSerial options).run
  let reasons ← fetchReasons
  return { role, serial, peerSerial, options, reasons }

end FailoverControl.Control
