import FailoverControl.Control.Procedure
import FailoverControl.Operator.Desk

/-!
# The surroundings of a command

A gateway answers the calls of the daemon and the operator's desk everything else; together they
are a world in which procedures run.
-/

set_option autoImplicit false

namespace FailoverControl.Control

open FailoverControl.Daemon (Call CallOutcome)
open FailoverControl.Operator (Desk)

/-- Answers calls of the daemon, with a state of its own. -/
structure Gateway (γ : Type) where
  call : Call → γ → CallOutcome × γ

/-- The state of the daemon and of the operator's desk. -/
structure Surroundings (γ : Type) where
  daemon : γ
  desk : Desk

/-- The world of a gateway and a desk. -/
def Gateway.world {γ : Type} (gateway : Gateway γ) : World (Surroundings γ) where
  answer
    | .call call, s =>
      let (outcome, daemon) := gateway.call call s.daemon
      (outcome, { s with daemon })
    | .serial, s => (s.desk.serial, s)
    | .warn text, s => ((), { s with desk := s.desk.warn text })
    | .confirm prompt, s =>
      let (confirmed, desk) := s.desk.confirm prompt
      (confirmed, { s with desk })
    | .reboot, s =>
      let (result, desk) := s.desk.startReboot
      (result, { s with desk })
    | .log entry, s => ((), { s with desk := s.desk.note [entry] })

end FailoverControl.Control
