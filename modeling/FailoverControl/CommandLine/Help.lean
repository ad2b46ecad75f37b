import FailoverControl.CommandLine.Grammar
import FailoverControl.Text.Lines

/-!
# Help texts

The short help lists an argument a line, the long one explains each in a paragraph of its own. The
variable that gives the endpoint is shown with its value.
-/

set_option autoImplicit false

namespace FailoverControl.CommandLine

open FailoverControl.Control (Command)

/-- What the program is. -/
def description : String :=
  "Operator control utility for two-node high-availability storage clusters"

/-- An option as the help shows it. -/
structure HelpEntry where
  head : String
  summary : String
  /-- Where the value comes from if it is not given. -/
  notes : List String

/-- A text and as many spaces as it lacks to a width. -/
def column (width : Nat) (s : String) : String :=
  s ++ "".pushn ' ' (width - s.length)

/-- The head of a switch. -/
def switchHead (switch : Switch) : String :=
  "-" ++ switch.short.toString ++ ", " ++ switch.shown

/-- The head of a setting. -/
def settingHead (setting : Setting) : String :=
  "    " ++ setting.shown

/-- The note on what holds when no value is given. -/
def defaultNote (value : String) : String :=
  "[default: " ++ value ++ "]"

/-- The note on a variable of the environment. -/
def variableNote (name : String) (value : Option String) : String :=
  "[env: " ++ name ++ "=" ++ value.getD "" ++ "]"

/-- All options; `uriValue` is the value of the variable that gives the endpoint. -/
def helpEntries (long : Bool) (uriValue : Option String) : List HelpEntry :=
  [⟨switchHead .verbose,
      "Log to stderr. Repeat for more detail (-v errors ... -vvvvv traces)", []⟩,
    ⟨switchHead .yes,
      "Auto answer \"yes\" to confirmation prompts. " ++
        "Takeover and giveback will proceed without asking", []⟩,
    ⟨settingHead .uri, "Websocket endpoint of the local management daemon",
      [variableNote uriVariable uriValue, defaultNote standardUri]⟩,
    ⟨settingHead .peerTimeout, "Seconds to wait for the other node to answer once connected",
      [defaultNote (Decimal.text standardSeconds.toNat)]⟩,
    ⟨settingHead .peerConnectTimeout, "Seconds to wait for a connection to the other node",
      [defaultNote (Decimal.text standardSeconds.toNat)]⟩,
    ⟨switchHead .quiet,
      "Print nothing when this is not an HA system. The exit code is still 1", []⟩,
    ⟨switchHead .help,
      if long then "Print help (see a summary with '-h')"
      else "Print help (see more with '--help')", []⟩,
    ⟨switchHead .version, "Print version", []⟩]

/-- What both helps begin with. -/
def helpStart : String :=
  description ++ "\n\nUsage: " ++ programName ++ " [OPTIONS] [COMMAND]\n\nArguments:\n  [COMMAND]"

/-- A text whose lines, the first one apart, are indented. -/
def hanging (indent s : String) : String :=
  String.intercalate ("\n" ++ indent) (Text.linesOf s)

/-- An option on one line, which goes on below its summary if a note has line feeds. -/
def HelpEntry.line (width : Nat) (entry : HelpEntry) : String :=
  "  " ++ column width entry.head ++ "  " ++
    hanging ("".pushn ' ' (width + 4)) (String.intercalate " " (entry.summary :: entry.notes)) ++
    "\n"

/-- The short help. -/
def shortHelp (uriValue : Option String) : String :=
  let entries := helpEntries false uriValue
  let width := (entries.map (·.head.length)).foldl max 0
  helpStart ++ "  " ++ defaultNote Command.status.name ++ " [possible values: " ++
    String.intercalate ", " (Command.all.map Command.name) ++ "]\n\nOptions:\n" ++
    String.join (entries.map (·.line width))

/-- What a paragraph is indented by. -/
def indent : String := "          "

/-- An option in a paragraph. -/
def HelpEntry.paragraph (entry : HelpEntry) : String :=
  let gap := if entry.notes.isEmpty then "" else indent ++ "\n"
  "  " ++ entry.head ++ "\n" ++ indent ++ entry.summary ++ "\n" ++ gap ++
    String.join (entry.notes.map fun note => indent ++ hanging indent note ++ "\n")

/-- A command in the long help. -/
def commandLine (width : Nat) (command : Command) : String :=
  indent ++ "- " ++ column width (command.name ++ ":") ++ " " ++ command.summary ++ "\n"

/-- The long help. -/
def longHelp (uriValue : Option String) : String :=
  let width := (Command.all.map fun c => c.name.length + 1).foldl max 0
  helpStart ++ "\n" ++ indent ++ "Possible values:\n" ++
    String.join (Command.all.map (commandLine width)) ++ indent ++ "\n" ++ indent ++
    defaultNote Command.status.name ++ "\n\nOptions:\n" ++
    String.intercalate "\n" ((helpEntries true uriValue).map (·.paragraph))

/-- The version of the program as it is shown. -/
def versionText : String :=
  programName ++ " " ++ programVersion ++ "\n"

end FailoverControl.CommandLine
