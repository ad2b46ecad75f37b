import FailoverControl.App.Run

/-!
# The command line program

Collects what the process is started with, runs the program and shows what it has to show. The
program has no network of its own, so that every connection fails as on a machine without a route.
A run without a connection puts no question and starts no reboot: standard input is not read, and
nothing is there to reboot with.
-/

set_option autoImplicit false

namespace FailoverControl

open FailoverControl.App
open FailoverControl.Host (FileState)
open FailoverControl.Operator (Output)
open FailoverControl.Settings (Environment)

/-- Where the system keeps the serial number. -/
def serialPath : String := "/sys/class/dmi/id/product_serial"

/-- What is found under the name of a file. -/
def readFile (path : String) : IO FileState := do
  match ← (IO.FS.readBinFile path).toBaseIO with
  | .ok content => return .content content.toList
  | .error (.noFileOrDirectory _ _ _) => return .missing
  | .error (.inappropriateType _ 21 _) => return .directory
  | .error (.permissionDenied _ code _) => return .unreadable (.os code.toNat)
  | .error cause => return .unreadable (.custom cause.toString)

/-- The variables of this process. -/
def readEnvironment : IO Environment := do
  let values ← variableNames.mapM fun name => do return (name, ← IO.getEnv name)
  return ⟨values.filterMap fun (name, value) => value.map (name, ·)⟩

/-- A directory and those above it, the nearest first. -/
def upwards (directory : String) : List String :=
  let parts := directory.splitOn "/"
  (List.range parts.length).map fun dropped =>
    "/".intercalate (parts.take (parts.length - dropped))

/-- The file of variables in the current directory or in the nearest one above it that has one. A
file that is there but cannot be read ends the search. -/
def readVariableFile : IO (Option VariableFile) := do
  for directory in upwards (toString (← IO.currentDir)) do
    let path := directory ++ "/.env"
    match ← readFile path with
    | .content content => return some ⟨path, content⟩
    | .unreadable _ => return none
    | _ => continue
  return none

/-- The machine that this process runs on, with nothing to be read from its input and nothing to
reboot it with. -/
def readMachine : IO Machine := do
  return {
    serialFile := ← readFile serialPath
    reboot := .error (.os 1)
    input := []
    interruptAtPrompt := false }

/-- Shows one thing. -/
def display : Output → IO Unit
  | .out text => IO.print text
  | .err text => IO.eprint text
  | .log entry => IO.eprintln entry.line

/-- The exit code of a process that ends in the given way. -/
def exitCode : Exit → UInt32
  | .code code => code.toUInt32
  | .crash => 101
  | .never => 101

end FailoverControl

open FailoverControl

/-- Runs the program with the arguments of the process. -/
def main (arguments : List String) : IO UInt32 := do
  let launch : App.Launch := {
    arguments
    environment := ← readEnvironment
    variableFile := ← readVariableFile
    terminal := ← (← IO.getStdout).isTty }
  let finished := App.run launch (← readMachine) Rpc.Network.isolated
  finished.transcript.forM display
  return exitCode finished.exit
