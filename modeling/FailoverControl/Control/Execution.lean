import FailoverControl.Control.Inquiry

/-!
# Carrying out an action

An allowed action ends in at most one change. Disruptive actions warn and ask first; a giveback
reboots this node once it has been demoted.
-/

set_option autoImplicit false

namespace FailoverControl.Control

open FailoverControl.Daemon

/-- What a carried out action did. -/
inductive Executed where
  | enabled
  | disabled
  | takeoverRequested
  | givebackRequested
deriving DecidableEq, Repr

/-- The wording of what was done. -/
def Executed.message : Executed → String
  | .enabled => "Failover enabled."
  | .disabled => "Failover disabled."
  | .takeoverRequested => "Takeover requested. The other node will now become passive."
  | .givebackRequested => "Giveback requested. This node will now reboot."

/-- The question before a disruptive action. -/
def confirmationPrompt : String := "Are you sure you want to proceed? (y/n): "

/-- Where log entries on carrying out an action come from. -/
def executionTarget : String := "hactl::commands::execute"

/-- Warns and goes on only when the operator says so. -/
def confirmOrCancel (action : Action) (warning : String) : Task Failure Unit := do
  ExceptT.lift (Procedure.request (.warn warning))
  let confirmed ← ExceptT.lift (Procedure.request (.confirm confirmationPrompt))
  if confirmed then return () else throw (.cancelled action)

/-- Starts a reboot of this node. -/
def reboot : Task Failure Unit :=
  Task.mapFailure .reboot (ExceptT.mk (Procedure.request .reboot))

/-- Carries out an action. -/
def execute : Action → Task Failure Executed
  | .enable => do
    (setDisabled false).mapFailure .mutation
    return .enabled
  | .disable => do
    (setDisabled true).mapFailure .mutation
    return .disabled
  | .takeover => do
    confirmOrCancel .takeover "This will likely cause the other node to reboot."
    note .info executionTarget "Asking the other node to become passive" []
    peerBecomePassive.mapFailure .mutation
    return .takeoverRequested
  | .giveback => do
    confirmOrCancel .giveback "This will cause this node to reboot."
    note .info executionTarget "Asking this node to become passive" []
    becomePassive.mapFailure .mutation
    reboot
    return .givebackRequested

end FailoverControl.Control
