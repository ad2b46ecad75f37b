import FailoverControl.App.Launch
import FailoverControl.App.Session
import FailoverControl.Host.Serial
import FailoverControl.Rpc.Network

/-!
# The whole program

A run starts up, connects to the daemon, runs the command and shows how it ended. Reports, done
actions and the finding that this is no cluster go to standard output, failures to standard error.
The program succeeds when there is a report or the action has been carried out.
-/

set_option autoImplicit false

namespace FailoverControl.App

open FailoverControl.CommandLine (Arguments)
open FailoverControl.Console (Palette)
open FailoverControl.Control (Failure Outcome Procedure)
open FailoverControl.Daemon (CallOptions Halt)
open FailoverControl.Host (FileState IoError)
open FailoverControl.Operator (Confirmer Desk Output Sink Terminal)

/-- The machine that a process runs on. -/
structure Machine where
  /-- The file that holds the serial number. -/
  serialFile : FileState
  /-- How starting a reboot ends. -/
  reboot : Except IoError Unit
  /-- What is typed on standard input. -/
  input : List UInt8
  /-- Whether the program is interrupted as soon as it asks a question. -/
  interruptAtPrompt : Bool

/-- How a process ends. -/
inductive Exit where
  | code (code : UInt8)
  /-- A sum that does not fit or a variable that cannot be set stops it. -/
  | crash
  /-- It waits for ever. -/
  | never
deriving DecidableEq, Repr

/-- What remains of a process. -/
structure Finished where
  exit : Exit
  transcript : List Output
  /-- The requests that have reached the daemon. -/
  delivered : List String
  /-- How often a reboot has been attempted. -/
  reboots : Nat

/-- How long the program waits for a connection. -/
def connectTimeout : Duration := .ofSeconds 5

/-- The bounds for calls that are forwarded to the other node. -/
def peerOptions (arguments : Arguments) : CallOptions :=
  ⟨.ofSeconds arguments.peerTimeout, .ofSeconds arguments.peerConnectTimeout⟩

/-- The log entry on a connection that stands. -/
def connectedEntry (uri : String) : Log.Entry :=
  ⟨.info, "hactl::app", "Connected to " ++ uri, []⟩

/-- A failure as it is shown. -/
def failureOutput (palette : Palette) (failure : Failure) : Output :=
  .err (palette.styled .danger failure.message ++ "\n")

/-- What a command that has run to its end shows, and how the process ends. -/
def conclusion (palette : Palette) (quiet : Bool) :
    Except Failure Outcome → List Output × Exit
  | .ok (.report report) => ([.out report.text], .code 0)
  | .ok (.executed executed) =>
    ([.out (palette.styled .success executed.message ++ "\n")], .code 0)
  | .error .notHaNode =>
    (if quiet then [] else [.out (Failure.notHaNode.message ++ "\n")], .code 1)
  | .error failure => ([failureOutput palette failure], .code 1)

/-- What a program that is stopped shows, and how the process ends. -/
def haltConclusion : Halt → List Output × Exit
  | .overflow => ([.err "overflow when adding durations\n"], .crash)
  | .waiting => ([], .never)
  | .interrupted =>
    ([.out "\x1b[?25h", .err "\nCtrl-C pressed, aborting...\n"], .code 1)

/-- The desk at which a command begins. -/
def Startup.desk (startup : Startup) (machine : Machine) : Desk where
  palette := startup.palette
  confirmer :=
    if startup.palette.context.autoConfirm then .automatic
    else .terminal (Terminal.ofInput machine.input Sink.unlimited)
  serial := (Host.serialNumber machine.serialFile).mapError (·.toIoError)
  reboot := machine.reboot
  reboots := 0
  transcript := []

/-- The questions that have been written at a desk. -/
def questions (desk : Desk) : List Output :=
  if desk.confirmer.written.isEmpty then []
  else [.out (Text.displayed desk.confirmer.written)]

/-- The procedure of the command. -/
def Startup.procedure (startup : Startup) : Procedure (Except Failure Outcome) :=
  (Control.dispatch startup.arguments.command (peerOptions startup.arguments)).run

/-- The session in which the command begins. -/
def Startup.sessionOver {σ : Type} (startup : Startup) (machine : Machine)
    (client : Rpc.Client σ) : Session σ :=
  ⟨client, startup.desk machine, machine.interruptAtPrompt⟩

/-- What remains of the process once the command has run in its session. -/
def Startup.finished {σ : Type} (startup : Startup) (result : Except Halt (Except Failure Outcome))
    (session : Session σ) : Finished :=
  let (shown, exit) :=
    match result with
    | .ok result => conclusion startup.palette startup.arguments.quiet result
    | .error halt => haltConclusion halt
  ⟨exit, session.desk.transcript ++ questions session.desk ++ shown, session.client.delivered,
    session.desk.reboots⟩

/-- Runs the command over a connection. -/
def Startup.command {σ : Type} (startup : Startup) (machine : Machine) (client : Rpc.Client σ) :
    Finished :=
  let (result, session) := runIn startup.procedure (startup.sessionOver machine client)
  startup.finished result session

/-- Connects to the daemon and runs the command. -/
def Startup.run {σ : Type} (startup : Startup) (machine : Machine) (network : Rpc.Network σ) :
    Finished :=
  let uri := startup.arguments.uri
  let connecting := startup.transcript ++ [.log (Rpc.connectingEntry uri)]
  match Rpc.connect network uri connectTimeout with
  | .error cause =>
    ⟨.code 1, connecting ++ [failureOutput startup.palette (.connectionSetup cause)], [], 0⟩
  | .ok client =>
    let finished := startup.command machine client
    { finished with
      transcript := connecting ++ [.log (connectedEntry uri)] ++ finished.transcript }

/-- What remains of a process that is kept from turning to the daemon. -/
def Launch.unstarted (launch : Launch) : Obstacle → Finished
  | .ending ending =>
    let code :=
      match ending with
      | .misuse _ => 2
      | _ => 0
    ⟨.code code, [launch.endingOutput ending], [], 0⟩
  | .unsettable assignment => ⟨.crash, [.err (assignment.message ++ "\n")], [], 0⟩

/-- Whether something is shown: a log entry only if the filter admits it. -/
def isShown (filter : Log.Filter) : Output → Bool
  | .log entry => filter.admits entry
  | _ => true

/-- Runs the program. -/
def run {σ : Type} (launch : Launch) (machine : Machine) (network : Rpc.Network σ) :
    Finished :=
  match launch.start with
  | .error obstacle => launch.unstarted obstacle
  | .ok startup =>
    let finished := startup.run machine network
    { finished with transcript := finished.transcript.filter (isShown startup.filter) }

end FailoverControl.App
