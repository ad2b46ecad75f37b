import FailoverControl.Console.WarningBox
import FailoverControl.Host.IoError
import FailoverControl.Operator.Confirmation
import FailoverControl.Operator.Transcript

/-!
# The operator's desk

What a command shows to the operator and asks of this machine: warnings, questions, the serial
number and the reboot. Questions are put at the terminal, or confirmed with a remark on standard
output when all of them have been answered beforehand.
-/

set_option autoImplicit false

namespace FailoverControl.Operator

open FailoverControl.Console (Palette Style)
open FailoverControl.Host (IoError)

/-- Who answers questions. -/
inductive Confirmer where
  /-- Every question is confirmed. -/
  | automatic
  | terminal (t : Terminal)
deriving DecidableEq, Repr

/-- What questions have been written so far. -/
def Confirmer.written : Confirmer → List UInt8
  | .automatic => []
  | .terminal t => t.sink.taken

/-- Everything around a command but the daemon. -/
structure Desk where
  palette : Palette
  confirmer : Confirmer
  /-- The serial number of this node. -/
  serial : Except IoError String
  /-- How starting a reboot ends. -/
  reboot : Except IoError Unit
  /-- How often a reboot has been attempted. -/
  reboots : Nat
  transcript : List Output

/-- The remark on a question that is confirmed without asking. -/
def autoConfirmRemark : String := "Auto-confirming --yes is set."

/-- The log entry on a reboot that is started. -/
def rebootEntry : Log.Entry := ⟨.info, "hactl::host", "Rebooting this node", []⟩

namespace Desk

/-- Shows something. -/
def display (output : Output) (desk : Desk) : Desk :=
  { desk with transcript := desk.transcript ++ [output] }

/-- Writes log entries. -/
def note (entries : List Log.Entry) (desk : Desk) : Desk :=
  { desk with transcript := desk.transcript ++ entries.map .log }

/-- Shows a warning. -/
def warn (text : String) (desk : Desk) : Desk :=
  desk.display (.err (desk.palette.warningBox text ++ "\n"))

/-- Puts a question. -/
def confirm (prompt : String) (desk : Desk) : Bool × Desk :=
  match desk.confirmer with
  | .automatic =>
    (true, desk.display (.out (prompt ++ desk.palette.styled .warn autoConfirmRemark ++ "\n")))
  | .terminal t =>
    let (answer, t) := t.confirm prompt
    (answer, { desk with confirmer := .terminal t })

/-- Starts a reboot. -/
def startReboot (desk : Desk) : Except IoError Unit × Desk :=
  (desk.reboot, { desk.note [rebootEntry] with reboots := desk.reboots + 1 })

end Desk

end FailoverControl.Operator
