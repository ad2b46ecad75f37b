import FailoverControl.Cluster.Config
import FailoverControl.Cluster.Reason
import FailoverControl.Cluster.Role
import FailoverControl.Control.Command

/-!
# Whether an action may run

The decision depends on the role of this node and the failover settings, taken at the start, and
for disruptive actions on the reasons for disabled failover, taken right before they run. Of the
rules that fail the first one names the rejection; without reasons a disruptive action is refused.
-/

set_option autoImplicit false

namespace FailoverControl.Control

open FailoverControl.Cluster

/-- Why an action may not run. -/
inductive Rejection where
  | alreadyEnabled
  | alreadyDisabled
  | notActiveForToggle
  | failoverDisabled
  | notStandby
  | notActive
  | unhealthy
deriving DecidableEq, Repr

/-- The wording of a rejection. -/
def Rejection.message : Rejection → String
  | .alreadyEnabled => "Failover already enabled."
  | .alreadyDisabled => "Failover already disabled."
  | .notActiveForToggle => "This command can only be run on the Active node."
  | .failoverDisabled => "Failover must be enabled before running this command."
  | .notStandby => "This command can only be run on the standby node."
  | .notActive => "This command can only be run on the active node."
  | .unhealthy => "This command can only be run when HA is healthy."

/-- The state of the cluster at the start. -/
structure Snapshot where
  role : Role
  config : Config
deriving DecidableEq, Repr

namespace Snapshot

/-- Why the state at the start rules an action out. -/
def rejection? (snapshot : Snapshot) : Action → Option Rejection
  | .enable =>
    if !snapshot.config.disabled then some .alreadyEnabled
    else if snapshot.role ≠ .active then some .notActiveForToggle
    else none
  | .disable =>
    if snapshot.config.disabled then some .alreadyDisabled
    else if snapshot.role ≠ .active then some .notActiveForToggle
    else none
  | .takeover =>
    if snapshot.config.disabled then some .failoverDisabled
    else if snapshot.role ≠ .standby then some .notStandby
    else none
  | .giveback =>
    if snapshot.config.disabled then some .failoverDisabled
    else if snapshot.role ≠ .active then some .notActive
    else none

end Snapshot

/-- Why the live reasons rule a disruptive action out. -/
def healthRejection? (reasons : List Reason) : Option Rejection :=
  if reasons.isEmpty then none else some .unhealthy

/-- The full decision on an action; `none` allows it. -/
def decide? (snapshot : Snapshot) (action : Action) (reasons : Option (List Reason)) :
    Option Rejection :=
  match snapshot.rejection? action with
  | some rejection => some rejection
  | none =>
    if action.requiresHealth then
      match reasons with
      | none => some .unhealthy
      | some reasons => healthRejection? reasons
    else none

end FailoverControl.Control
