import FailoverControl.CommandLine.Help
import FailoverControl.CommandLine.Parser
import FailoverControl.Console.Palette
import FailoverControl.Log.Filter
import FailoverControl.Operator.Transcript
import FailoverControl.Settings.DotEnv

/-!
# Starting the program

The command line is read first, so that a file of variables cannot change the endpoint. The file is
loaded next and takes part in everything else: whether output is colored and what is logged. If it
assigns to a variable what the system does not take, the program goes no further.
-/

set_option autoImplicit false

namespace FailoverControl.App

open FailoverControl.CommandLine (Arguments Ending)
open FailoverControl.Console (Context Palette)
open FailoverControl.Operator (Output)
open FailoverControl.Settings (Environment Loading Unsettable)

/-- A file of variables. -/
structure VariableFile where
  path : String
  content : List UInt8

/-- What a process is started with. -/
structure Launch where
  arguments : List String
  environment : Environment
  /-- The nearest file of variables. -/
  variableFile : Option VariableFile
  /-- Whether standard output is a terminal. -/
  terminal : Bool

/-- The variable of the environment that says what is logged. -/
def logVariable : String := "RUST_LOG"

/-- The variables that the program looks at. -/
def variableNames : List String :=
  [CommandLine.uriVariable, "CLICOLOR_FORCE", "NO_COLOR", "TERM", logVariable]

/-- What keeps the program from turning to the daemon. -/
inductive Obstacle where
  /-- The command line asks for a text, or it is misused. -/
  | ending (ending : Ending)
  /-- The file of variables makes an assignment that the system does not take. -/
  | unsettable (assignment : Unsettable)

/-- What is settled before the program turns to the daemon. -/
structure Startup where
  arguments : Arguments
  palette : Palette
  filter : Log.Filter
  transcript : List Output

/-- Where log entries on settings come from. -/
def settingsTarget : String := "hactl_cli_util::context"

/-- The log entry on the file of variables, if one has been loaded. -/
def variablesEntry : Option VariableFile → Log.Entry
  | some file => ⟨.info, settingsTarget, "Loaded .env file from: " ++ file.path, []⟩
  | none => ⟨.info, settingsTarget, "Didn't load '.env' file", []⟩

namespace Launch

/-- The environment once the file of variables has been read, and the file if it was well
formed. -/
def loaded (launch : Launch) : Environment × Option VariableFile :=
  match launch.variableFile with
  | none => (launch.environment, none)
  | some file =>
    let (env, loading) := launch.environment.load file.content
    (env, if loading = .complete then some file else none)

/-- The assignment of the file of variables that the system does not take, if it comes to one. -/
def unsettable? (launch : Launch) : Option Unsettable :=
  match launch.variableFile with
  | none => none
  | some file =>
    match (launch.environment.load file.content).2 with
    | .stuck assignment => some assignment
    | _ => none

/-- The value of the variable that gives the endpoint, before any file has been read. -/
def uriValue (launch : Launch) : Option String :=
  launch.environment.get? CommandLine.uriVariable

/-- Settles colors and log for the arguments of the command line. -/
def settled (launch : Launch) (arguments : Arguments) : Startup :=
  let (env, file) := launch.loaded
  let context := Context.ofEnvironment env.get? launch.terminal arguments.yes
  let (filter, ignored) :=
    Log.Filter.read ((env.get? logVariable).getD "") (min arguments.verbosity.toNat 5)
  let notices := ignored.map fun part => Output.err part.notice
  ⟨arguments, ⟨context, context.colors⟩, filter, notices ++ [.log (variablesEntry file)]⟩

/-- Settles arguments, colors and log. -/
def start (launch : Launch) : Except Obstacle Startup :=
  match CommandLine.parse launch.arguments launch.uriValue, launch.unsettable? with
  | .error ending, _ => .error (.ending ending)
  | .ok _, some assignment => .error (.unsettable assignment)
  | .ok arguments, none => .ok (launch.settled arguments)

/-- What is shown when the command line is not followed by a run. -/
def endingOutput (launch : Launch) : Ending → Output
  | .help long =>
    .out (if long then CommandLine.longHelp launch.uriValue
      else CommandLine.shortHelp launch.uriValue)
  | .version => .out CommandLine.versionText
  | .misuse error => .err error.text

end Launch

end FailoverControl.App
