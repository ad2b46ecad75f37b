/-!
# Reasons for disabled failover

The daemon owns the set of codes, so a reason is kept as its code; codes without a wording of
their own are shown as unknown.
-/

set_option autoImplicit false

namespace FailoverControl.Cluster

/-- A coded cause that keeps failover from being healthy. -/
structure Reason where
  code : String
deriving DecidableEq, Repr

/-- The wordings of the known codes. -/
def reasonTexts : List (String × String) :=
  [("NO_VOLUME", "No zpools have been configured."),
    ("NO_VIP", "No interfaces have been configured with a Virtual IP."),
    ("NO_SYSTEM_READY", "Other storage controller has not finished booting."),
    ("NO_PONG", "Unable to contact remote node via the heartbeat interface."),
    ("NO_FAILOVER", "Failover is administratively disabled."),
    ("NO_LICENSE", "Other storage controller has no license."),
    ("DISAGREE_VIP", "Nodes Virtual IP states do not agree."),
    ("MISMATCH_DISKS", "The storage controllers do not have the same quantity of disks."),
    ("MISMATCH_VERSIONS", "Software versions do not match between storage controllers."),
    ("MISMATCH_NICS", "Network interfaces do not match between storage controllers."),
    ("NO_CRITICAL_INTERFACES", "No network interfaces are marked critical for failover."),
    ("NO_FENCED", "Fenced is not running."),
    ("NO_HEARTBEAT_IFACE", "Local heartbeat interface does not exist."),
    ("NO_CARRIER_ON_HEARTBEAT", "Local heartbeat interface is down."),
    ("LOC_FIPS_REBOOT_REQ", "This node needs to be rebooted to apply FIPS configuration."),
    ("REM_FIPS_REBOOT_REQ", "Other node needs to be rebooted to apply FIPS configuration."),
    ("LOC_UPGRADE_REBOOT_REQ", "This node needs to be rebooted to finish a software upgrade."),
    ("REM_UPGRADE_REBOOT_REQ", "Other node needs to be rebooted to finish a software upgrade."),
    ("LOC_SYSTEMD_SHUTDOWN", "This node is shutting down."),
    ("REM_SYSTEMD_SHUTDOWN", "Other node is shutting down."),
    ("LOC_FAILOVER_ONGOING", "This node is currently processing a failover event."),
    ("REM_FAILOVER_ONGOING", "Other node is currently processing a failover event.")]

/-- The wording of a code without a wording of its own. -/
def unknownReason : String := "UNKNOWN"

/-- The wording of a reason. -/
def Reason.describe (reason : Reason) : String :=
  (reasonTexts.lookup reason.code).getD unknownReason

end FailoverControl.Cluster
