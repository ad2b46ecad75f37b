import FailoverControl.Control.Failure
import FailoverControl.Control.Procedure
import FailoverControl.Text.Quoted

/-!
# What the daemon is asked

The calls of the failover interface as procedures. A fetched value that cannot be decoded fails
like a fetch that was refused, under the name of what was fetched. Only calls that are forwarded to
the other node to ask for facts carry bounds.
-/

set_option autoImplicit false

namespace FailoverControl.Control

open FailoverControl.Cluster
open FailoverControl.Daemon
open FailoverControl.Json (Value DecodeError)

/-- A procedure that may fail. -/
abbrev Task (ε α : Type) : Type := ExceptT ε Procedure α

/-- Calls the daemon. -/
def invoke (call : Call) : Task CallError Value :=
  ExceptT.mk (Procedure.request (.call call))

/-- Writes a log entry. -/
def note {ε : Type} (level : Log.Level) (target message : String)
    (fields : List (String × String)) : Task ε Unit :=
  ExceptT.lift (Procedure.request (.log ⟨level, target, message, fields⟩))

/-- Gives the failures of a task another type. -/
def Task.mapFailure {ε δ α : Type} (f : ε → δ) (task : Task ε α) : Task δ α :=
  ExceptT.mk (Except.mapError f <$> task.run)

/-- Asks the local daemon for a value and decodes it. -/
def fetch {α : Type} (what method : String) (decode : Value → Except DecodeError α) :
    Task Failure α := do
  let value ← (invoke ⟨method, [], none⟩).mapFailure (.fetch what)
  match decode value with
  | .ok a => return a
  | .error e => throw (.fetch what (.other ("unexpected response: " ++ e.message)))

/-- Whether the cluster is licensed for high availability. -/
def fetchLicense : Task Failure Bool :=
  fetch "HA license status" Method.licenseIsHA Value.asBool

/-- The administrative failover settings. -/
def fetchConfig : Task Failure Config :=
  fetch "failover configuration" Method.config Config.ofValue

/-- The failover role of this node. -/
def fetchRole : Task Failure Role := do
  let identifier ← fetch "failover status" Method.status Value.asText
  let role := Role.ofIdentifier identifier
  note .debug "hactl::failover" "Local failover role"
    [("identifier", identifier), ("role", role.name)]
  return role

/-- The reasons for which failover is disabled. -/
def fetchReasons : Task Failure (List Reason) :=
  fetch "failover disabled reasons" Method.disabledReasons
    fun value => value.asTexts.map (·.map Reason.mk)

/-- The serial number in the facts about a node. -/
def serialOf (facts : Value) : Except CallError String :=
  match (facts.member? "system_serial").bind Value.string? with
  | some serial => .ok serial
  | none => .error (.other "remote node did not report a serial number")

/-- The serial number of the other node. -/
def fetchPeerSerial (options : CallOptions) : Task CallError String := do
  let facts ← invoke (.forwarded Method.systemInfo [] (some options))
  ExceptT.mk (pure (serialOf facts))

/-- Switches failover off or on. -/
def setDisabled (disabled : Bool) : Task CallError Unit := do
  let _ ← invoke ⟨Method.update, [.object [("disabled", .bool disabled)]], none⟩

/-- Demotes this node. -/
def becomePassive : Task CallError Unit := do
  let _ ← invoke ⟨Method.becomePassive, [], none⟩

/-- Demotes the other node, so that this one takes over. -/
def peerBecomePassive : Task CallError Unit := do
  let _ ← invoke (.forwarded Method.becomePassive [] none)

end FailoverControl.Control
