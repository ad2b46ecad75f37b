import FailoverControl.Control.Surroundings
import FailoverControl.Proofs.Control.Course

/-!
# Attendants

A gateway answers the calls of a command. Whoever answers the rest (the operator, the firmware with
its serial number, the power switch) attends the run with a state of their own, and may keep a
record of everything that is asked. Log entries concern nobody.

The rules below say how a replay in such surroundings goes on, exchange by exchange: calls move the
gateway alone, everything else moves the attendants alone.
-/

set_option autoImplicit false

namespace FailoverControl.Control

open FailoverControl.Daemon (Call CallOutcome)
open FailoverControl.Host (IoError)

variable {γ δ : Type}

/-- Those who answer everything but the calls of the daemon. -/
structure Attendants (δ : Type) where
  /-- The serial number of this node. -/
  serial : δ → Except IoError String × δ
  /-- Shows a warning. -/
  warn : String → δ → δ
  /-- Answers a question. -/
  confirm : String → δ → Bool × δ
  /-- Starts a reboot of this node. -/
  reboot : δ → Except IoError Unit × δ

/-- The world of a gateway and attendants. -/
def Gateway.among (gateway : Gateway γ) (attendants : Attendants δ) : World (γ × δ) where
  answer
    | .call call, (g, d) => ((gateway.call call g).1, (gateway.call call g).2, d)
    | .serial, (g, d) => ((attendants.serial d).1, g, (attendants.serial d).2)
    | .warn text, (g, d) => ((), g, attendants.warn text d)
    | .confirm prompt, (g, d) =>
      ((attendants.confirm prompt d).1, g, (attendants.confirm prompt d).2)
    | .reboot, (g, d) => ((attendants.reboot d).1, g, (attendants.reboot d).2)
    | .log _, (g, d) => ((), g, d)

namespace Gateway

variable {gateway : Gateway γ} {attendants : Attendants δ} {g : γ} {d : δ} {s : γ × δ}
  {rest : List Exchange}

/-- Only the gateway answers a call. -/
theorem replays_call_iff {call : Call} {outcome : CallOutcome} :
    (gateway.among attendants).Replays (g, d) (⟨.call call, outcome⟩ :: rest) s ↔
      (gateway.call call g).1 = outcome ∧
        (gateway.among attendants).Replays ((gateway.call call g).2, d) rest s := Iff.rfl

/-- Only the attendants take a warning. -/
theorem replays_warn_iff {text : String} {answer : Unit} :
    (gateway.among attendants).Replays (g, d) (⟨.warn text, answer⟩ :: rest) s ↔
      (gateway.among attendants).Replays (g, attendants.warn text d) rest s :=
  and_iff_right rfl

/-- Only the attendants answer a question. -/
theorem replays_confirm_iff {prompt : String} {agreed : Bool} :
    (gateway.among attendants).Replays (g, d) (⟨.confirm prompt, agreed⟩ :: rest) s ↔
      (attendants.confirm prompt d).1 = agreed ∧
        (gateway.among attendants).Replays (g, (attendants.confirm prompt d).2) rest s := Iff.rfl

/-- A log entry changes nothing. -/
theorem replays_log_iff {entry : Log.Entry} {answer : Unit} :
    (gateway.among attendants).Replays (g, d) (⟨.log entry, answer⟩ :: rest) s ↔
      (gateway.among attendants).Replays (g, d) rest s :=
  and_iff_right rfl

end Gateway

end FailoverControl.Control
