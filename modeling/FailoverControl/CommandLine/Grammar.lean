import FailoverControl.Control.Command
import FailoverControl.Decimal.Unsigned

/-!
# Arguments of the command line

The switches, which take no value, the settings, which take one, and the command. Some of the named
arguments form groups, and a usage line may show the group of an argument instead of it.
-/

set_option autoImplicit false

namespace FailoverControl.CommandLine

open FailoverControl.Control (Command)

/-- An argument without a value. -/
inductive Switch where
  | verbose
  | yes
  | quiet
  | help
  | version
deriving DecidableEq, Repr

namespace Switch

/-- All switches. -/
def all : List Switch := [.verbose, .yes, .quiet, .help, .version]

/-- The long name of a switch. -/
def long : Switch → String
  | .verbose => "verbose"
  | .yes => "yes"
  | .quiet => "quiet"
  | .help => "help"
  | .version => "version"

/-- The letter of a switch. -/
def short : Switch → Char
  | .verbose => 'v'
  | .yes => 'y'
  | .quiet => 'q'
  | .help => 'h'
  | .version => 'V'

/-- A switch in a message; only verbosity is counted. -/
def shown : Switch → String
  | .verbose => "--verbose..."
  | switch => "--" ++ switch.long

/-- The switch of a long name. -/
def ofLong? (name : String) : Option Switch :=
  all.find? (·.long = name)

/-- The switch of a letter. -/
def ofShort? (letter : Char) : Option Switch :=
  all.find? (·.short = letter)

end Switch

/-- An argument with a value. -/
inductive Setting where
  | uri
  | peerTimeout
  | peerConnectTimeout
deriving DecidableEq, Repr

namespace Setting

/-- All settings. -/
def all : List Setting := [.uri, .peerTimeout, .peerConnectTimeout]

/-- The name of a setting. -/
def long : Setting → String
  | .uri => "uri"
  | .peerTimeout => "peer-timeout"
  | .peerConnectTimeout => "peer-connect-timeout"

/-- What stands for the value of a setting. -/
def placeholder : Setting → String
  | .uri => "<URI>"
  | .peerTimeout => "<SECONDS>"
  | .peerConnectTimeout => "<SECONDS>"

/-- A setting in a message. -/
def shown (setting : Setting) : String :=
  "--" ++ setting.long ++ " " ++ setting.placeholder

/-- The setting of a name. -/
def ofLong? (name : String) : Option Setting :=
  all.find? (·.long = name)

end Setting

/-- An argument that is named on the command line. -/
inductive Named where
  | switch (name : Switch)
  | setting (name : Setting)
deriving DecidableEq, Repr

/-- A named argument in a message. -/
def Named.shown : Named → String
  | .switch name => name.shown
  | .setting name => name.shown

/-- What belongs together on a usage line. -/
inductive Group where
  | verbosity
  | confirmation
  | connection
deriving DecidableEq, Repr

/-- The members of a group. -/
def Group.members : Group → List Named
  | .verbosity => [.switch .verbose]
  | .confirmation => [.switch .yes]
  | .connection => Setting.all.map .setting

/-- A group on a usage line: one of its members. -/
def Group.shown (group : Group) : String :=
  "<" ++ String.intercalate "|" (group.members.map Named.shown) ++ ">"

/-- The group of a named argument. -/
def Named.group? : Named → Option Group
  | .switch .verbose => some .verbosity
  | .switch .yes => some .confirmation
  | .switch .quiet => none
  | .switch .help => none
  | .switch .version => none
  | .setting _ => some .connection

/-- What the command line asks for. -/
structure Arguments where
  command : Command
  quiet : Bool
  uri : String
  peerTimeout : UInt64
  peerConnectTimeout : UInt64
  verbosity : UInt8
  yes : Bool
deriving DecidableEq, Repr

/-- The name of the program. -/
def programName : String := "hactl"

/-- The version of the program. -/
def programVersion : String := "0.3.0"

/-- The endpoint that is used when none is given. -/
def standardUri : String := "ws://127.0.0.1:6000/api/current"

/-- The variable of the environment that gives the endpoint. -/
def uriVariable : String := "HACTL_URI"

/-- The seconds of both bounds when none are given. -/
def standardSeconds : UInt64 := 2

end FailoverControl.CommandLine
