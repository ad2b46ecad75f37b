/-!
# Commands

A command shows the state of the cluster or carries out an action that changes it.
-/

set_option autoImplicit false

namespace FailoverControl.Control

/-- What changes the state of the cluster. -/
inductive Action where
  | enable
  | disable
  | takeover
  | giveback
deriving DecidableEq, Repr

/-- What an operator may ask for. -/
inductive Command where
  | status
  | perform (action : Action)
deriving DecidableEq, Repr

/-- The name of an action. -/
def Action.name : Action → String
  | .enable => "enable"
  | .disable => "disable"
  | .takeover => "takeover"
  | .giveback => "giveback"

/-- Takeover and giveback disrupt the service, so they want healthy failover right before they
run. -/
def Action.requiresHealth : Action → Bool
  | .takeover => true
  | .giveback => true
  | _ => false

namespace Command

/-- All commands, in the order in which they are listed. -/
def all : List Command :=
  [.status, .perform .enable, .perform .disable, .perform .takeover, .perform .giveback]

/-- The name of a command. -/
def name : Command → String
  | .status => "status"
  | .perform action => action.name

/-- The command of a name. -/
def ofName? (name : String) : Option Command :=
  all.find? fun command => command.name = name

/-- What a command does, in one line. -/
def summary : Command → String
  | .status => "Show the failover role of this node and why failover may be disabled"
  | .perform .enable => "Administratively enable failover"
  | .perform .disable => "Administratively disable failover"
  | .perform .takeover => "Make this (standby) node the active one"
  | .perform .giveback => "Make this (active) node hand over to the other node and reboot"

/-- The name of a command in the log. -/
def logName : Command → String
  | .status => "Status"
  | .perform .enable => "Enable"
  | .perform .disable => "Disable"
  | .perform .takeover => "Takeover"
  | .perform .giveback => "Giveback"

end Command

end FailoverControl.Control
