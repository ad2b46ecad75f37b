import FailoverControl.Control.Execution
import FailoverControl.Control.Report

/-!
# From a command to its outcome

A run checks the licence, takes one snapshot of role and settings, and then reports or carries out
the action that the snapshot and, for disruptive actions, the live reasons allow.
-/

set_option autoImplicit false

namespace FailoverControl.Control

open FailoverControl.Daemon (CallOptions)

/-- How a command ends well. -/
inductive Outcome where
  | report (report : Report)
  | executed (executed : Executed)

/-- Goes on only when there is no rejection. -/
def proceedUnless (rejection : Option Rejection) : Task Failure Unit :=
  match rejection with
  | none => return ()
  | some rejection => throw (.rejected rejection)

/-- Takes the snapshot of a licensed cluster. -/
def takeSnapshot (command : Command) : Task Failure Snapshot := do
  let licensed ← fetchLicense
  if !licensed then throw .notHaNode
  let config ← fetchConfig
  let role ← fetchRole
  note .debug "hactl::commands" "Cluster snapshot taken"
    [("command", command.logName), ("role", role.name),
      ("config",
        "FailoverConfig \x7b disabled: " ++ (if config.disabled then "true" else "false") ++
          " \x7d")]
  return { role, config }

/-- Runs an action on a cluster in the given state. -/
def perform (snapshot : Snapshot) (action : Action) : Task Failure Executed := do
  proceedUnless (snapshot.rejection? action)
  if action.requiresHealth then
    let reasons ← fetchReasons
    proceedUnless (healthRejection? reasons)
  execute action

/-- Runs a command. -/
def dispatch (command : Command) (options : CallOptions) : Task Failure Outcome := do
  let snapshot ← takeSnapshot command
  match command with
  | .status => return .report (← gatherReport snapshot.role options)
  | .perform action => return .executed (← perform snapshot action)

end FailoverControl.Control
