import FailoverControl.CommandLine.Grammar

/-!
# Misuse of the command line

Why a command line is refused, and the text that tells the operator: one line on the reason, hints
where there are any, and where to find help.
-/

set_option autoImplicit false

namespace FailoverControl.CommandLine

open FailoverControl.Control (Command)
open FailoverControl.Decimal (NumberError)

/-- What a command line has given: its named arguments in the order of their last uses, their groups
in the order of their first ones, and whether there was a command. -/
structure Given where
  named : List Named
  groups : List Group
  command : Bool
deriving DecidableEq, Repr

namespace Given

/-- Nothing. -/
def nothing : Given := ⟨[], [], false⟩

/-- One more named argument. -/
def use (argument : Named) (given : Given) : Given :=
  { given with
    named := given.named.erase argument ++ [argument]
    groups :=
      match argument.group? with
      | none => given.groups
      | some group =>
        if given.groups.contains group then given.groups else given.groups ++ [group] }

/-- Whether nothing has been given. -/
def isNothing (given : Given) : Bool :=
  given.named.isEmpty && !given.command

end Given

/-- Why a command line is refused. -/
inductive UsageError where
  /-- A command that does not exist; it may be empty. -/
  | unknownCommand (name : String)
  | missingValue (setting : Setting)
  | invalidNumber (setting : Setting) (text : String) (reason : NumberError)
  /-- An argument nobody asked for, whether it looks like an option, and what has been given. -/
  | unexpected (argument : String) (isOption : Bool) (given : Given)
  | repeatedSwitch (switch : Switch)
  | repeatedSetting (setting : Setting)
  /-- A switch with a value, and what has been given before it. -/
  | surplusValue (switch : Switch) (text : String) (given : Given)
deriving DecidableEq, Repr

/-- The positional argument as usage lines show it. -/
def commandShown : String := "[COMMAND]"

/-- The command behind what has been given: it is optional unless there was one. -/
def Given.commandShown (given : Given) : String :=
  if given.command then "<COMMAND>" else CommandLine.commandShown

/-- A usage line with some parts. -/
def usageLine (parts : List String) : String :=
  "Usage: " ++ String.intercalate " " (programName :: parts)

/-- The usage line on which everything is possible. -/
def generalUsage : String := usageLine ["[OPTIONS]", commandShown]

/-- The usage line that repeats every argument that has been given. -/
def Given.plainUsage (given : Given) : String :=
  if given.isNothing then generalUsage
  else usageLine (given.named.map Named.shown ++ [given.commandShown])

/-- The usage line that shows the groups of what has been given, behind the arguments without such
a group and the argument it is about. -/
def Given.groupedUsage (given : Given) (argument : Named) : String :=
  let single := (given.named.erase argument ++ [argument]).filter fun a =>
    !a.group?.any given.groups.contains
  usageLine (single.map Named.shown ++ given.groups.map Group.shown ++ [given.commandShown])

namespace UsageError

/-- The reason in one line. -/
def reason : UsageError → String
  | .unknownCommand name =>
    if name = "" then "a value is required for '" ++ commandShown ++ "' but none was supplied"
    else "invalid value '" ++ name ++ "' for '" ++ commandShown ++ "'"
  | .missingValue setting =>
    "a value is required for '" ++ setting.shown ++ "' but none was supplied"
  | .invalidNumber setting text reason =>
    "invalid value '" ++ text ++ "' for '" ++ setting.shown ++ "': " ++ reason.message
  | .unexpected argument _ _ => "unexpected argument '" ++ argument ++ "' found"
  | .repeatedSwitch switch =>
    "the argument '" ++ switch.shown ++ "' cannot be used multiple times"
  | .repeatedSetting setting =>
    "the argument '" ++ setting.shown ++ "' cannot be used multiple times"
  | .surplusValue switch text _ =>
    "unexpected value '" ++ text ++ "' for '" ++ switch.shown ++
      "' found; no more were expected"

/-- What follows the reason: hints and a usage line. -/
def hints : UsageError → String
  | .unknownCommand _ =>
    "\n  [possible values: " ++ String.intercalate ", " (Command.all.map Command.name) ++ "]"
  | .missingValue _ => ""
  | .invalidNumber _ _ _ => ""
  | .unexpected argument isOption given =>
    (if isOption then
      "\n\n  tip: to pass '" ++ argument ++ "' as a value, use '-- " ++ argument ++ "'"
    else "") ++ "\n\n" ++ given.plainUsage
  | .repeatedSwitch _ => "\n\n" ++ generalUsage
  | .repeatedSetting _ => "\n\n" ++ generalUsage
  | .surplusValue switch _ given => "\n\n" ++ given.groupedUsage (.switch switch)

/-- The whole text. -/
def text (error : UsageError) : String :=
  "error: " ++ error.reason ++ error.hints ++ "\n\nFor more information, try '--help'.\n"

end UsageError

end FailoverControl.CommandLine
