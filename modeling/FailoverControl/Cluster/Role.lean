/-!
# Failover roles

The role of a node as the daemon reports it. Identifiers that are not known stand for an unknown
role, so that a newer daemon does not fail the command.
-/

set_option autoImplicit false

namespace FailoverControl.Cluster

/-- The failover role of a node. -/
inductive Role where
  | notHA
  | active
  | standby
  | electing
  | importingActive
  | faulted
  | unknown
deriving DecidableEq, Repr

namespace Role

/-- The identifiers of the known roles. -/
def identifiers : List (String × Role) :=
  [("SINGLE", .notHA), ("MASTER", .active), ("BACKUP", .standby), ("ELECTING", .electing),
    ("IMPORTING", .importingActive), ("ERROR", .faulted)]

/-- The role of an identifier. -/
def ofIdentifier (identifier : String) : Role :=
  (identifiers.lookup identifier).getD .unknown

/-- The wording of a role. -/
def describe : Role → String
  | .notHA => "Not an HA node"
  | .active => "Active"
  | .standby => "Standby"
  | .electing => "Electing active node"
  | .importingActive => "Becoming active node"
  | .faulted => "Faulted"
  | .unknown => "Unknown"

/-- The name of a role in the log. -/
def name : Role → String
  | .notHA => "NotHA"
  | .active => "Active"
  | .standby => "Standby"
  | .electing => "Electing"
  | .importingActive => "ImportingActive"
  | .faulted => "Faulted"
  | .unknown => "Unknown"

end Role

end FailoverControl.Cluster
