import FailoverControl.CommandLine.UsageError

/-!
# Reading the command line

Arguments are read from left to right. A value is kept back and checked only when the next known
argument begins or the line ends; an argument that is not known is refused before that, and the
usage line then counts the value as given. Switches of
one letter may be bundled, a setting takes the next argument or what follows an equals sign, and
after two hyphens everything is a command.
-/

set_option autoImplicit false

namespace FailoverControl.CommandLine

open FailoverControl.Control (Command)

/-- What a command line comes to when it does not run a command. -/
inductive Ending where
  | help (long : Bool)
  | version
  | misuse (error : UsageError)
deriving DecidableEq, Repr

/-- What has been given so far. -/
structure Draft where
  command : Option Command
  uri : Option String
  peerTimeout : Option UInt64
  peerConnectTimeout : Option UInt64
  quiet : Bool
  yes : Bool
  verbosity : Nat
  given : Given

/-- A value that has not been checked. -/
inductive Pending where
  | command (name : String)
  /-- A setting that waits for its value or has it. -/
  | setting (setting : Setting) (value : Option String)

/-- How far a command line has been read. -/
structure Progress where
  draft : Draft
  pending : Option Pending
  /-- Whether a command has been met. -/
  commandMet : Bool
  /-- Whether two hyphens have been met. -/
  onlyCommands : Bool

/-- Nothing has been read. -/
def Progress.start : Progress where
  draft := ⟨none, none, none, none, false, false, 0, .nothing⟩
  pending := none
  commandMet := false
  onlyCommands := false

namespace Draft

/-- Marks a named argument as used. -/
def use (argument : Named) (draft : Draft) : Draft :=
  { draft with given := draft.given.use argument }

/-- Whether a setting has been given. -/
def has (draft : Draft) : Setting → Bool
  | .uri => draft.uri.isSome
  | .peerTimeout => draft.peerTimeout.isSome
  | .peerConnectTimeout => draft.peerConnectTimeout.isSome

/-- Takes the seconds of a setting. -/
def readSeconds (setting : Setting) (text : String) : Except Ending UInt64 :=
  match Decimal.readUnsigned 18446744073709551615 text.toList with
  | .ok n => .ok (.ofNat n)
  | .error reason => .error (.misuse (.invalidNumber setting text reason))

/-- Takes a setting. -/
def give (setting : Setting) (value : Option String) (draft : Draft) : Except Ending Draft := do
  let some text := value | throw (.misuse (.missingValue setting))
  if draft.has setting then throw (.misuse (.repeatedSetting setting))
  let draft := draft.use (.setting setting)
  match setting with
  | .uri => return { draft with uri := some text }
  | .peerTimeout => return { draft with peerTimeout := some (← readSeconds setting text) }
  | .peerConnectTimeout =>
    return { draft with peerConnectTimeout := some (← readSeconds setting text) }

/-- Takes a command. -/
def giveCommand (name : String) (draft : Draft) : Except Ending Draft :=
  match Command.ofName? name with
  | some command =>
    .ok { draft with command := some command, given := { draft.given with command := true } }
  | none => .error (.misuse (.unknownCommand name))

/-- Turns a switch on; `byLetter` tells how it was named. -/
def turnOn (switch : Switch) (byLetter : Bool) (draft : Draft) : Except Ending Draft :=
  match switch with
  | .help => .error (.help !byLetter)
  | .version => .error .version
  | .verbose => .ok { draft.use (.switch .verbose) with verbosity := draft.verbosity + 1 }
  | .yes =>
    if draft.yes then .error (.misuse (.repeatedSwitch .yes))
    else .ok { draft.use (.switch .yes) with yes := true }
  | .quiet =>
    if draft.quiet then .error (.misuse (.repeatedSwitch .quiet))
    else .ok { draft.use (.switch .quiet) with quiet := true }

end Draft

namespace Progress

/-- Checks the value that has been kept back. -/
def settle (progress : Progress) : Except Ending Progress := do
  match progress.pending with
  | none => return progress
  | some (.command name) =>
    return { progress with draft := ← progress.draft.giveCommand name, pending := none }
  | some (.setting setting value) =>
    return { progress with draft := ← progress.draft.give setting value, pending := none }

/-- Turns a switch on. -/
def turnOn (switch : Switch) (byLetter : Bool) (progress : Progress) : Except Ending Progress := do
  let progress ← progress.settle
  return { progress with draft := ← progress.draft.turnOn switch byLetter }

/-- Refuses an argument. -/
def refuse {α : Type} (argument : String) (isOption : Bool) (given : Given) :
    Except Ending α :=
  .error (.misuse (.unexpected argument isOption given))

/-- What has been given with the value that has been kept back, sound or not. A setting that is
repeated counts as not given. -/
def given (progress : Progress) : Given :=
  let given := progress.draft.given
  match progress.pending with
  | none => given
  | some (.command _) => { given with command := true }
  | some (.setting _ none) => given
  | some (.setting setting (some _)) =>
    if progress.draft.has setting then
      { given with named := given.named.erase (.setting setting) }
    else given.use (.setting setting)

/-- Reads an argument behind two hyphens: a name and, behind an equals sign, a value. -/
def readLong (name : String) (value : Option String) (progress : Progress) :
    Except Ending Progress :=
  match Switch.ofLong? name, Setting.ofLong? name, value with
  | some switch, _, none => progress.turnOn switch false
  | some switch, _, some text =>
    .error (.misuse (.surplusValue switch text progress.draft.given))
  | none, some setting, none => do
    let progress ← progress.settle
    return { progress with pending := some (.setting setting none) }
  | none, some setting, some text => do
    let progress ← progress.settle
    return { progress with draft := ← progress.draft.give setting (some text) }
  | none, none, _ => refuse ("--" ++ name) true progress.given

/-- Reads switches of one letter. -/
def readLetters : List Char → Progress → Except Ending Progress
  | [], progress => .ok progress
  | letter :: rest, progress =>
    match Switch.ofShort? letter with
    | none => refuse ("-" ++ letter.toString) true .nothing
    | some switch => do readLetters rest (← progress.turnOn switch true)

/-- Reads a value: that of the setting that waits for it, else the command. -/
def readPlain (text : String) (progress : Progress) : Except Ending Progress :=
  match progress.pending, progress.onlyCommands with
  | some (.setting setting none), false =>
    .ok { progress with pending := some (.setting setting (some text)) }
  | _, _ =>
    if progress.commandMet then refuse text false .nothing
    else do
      let progress ← progress.settle
      return { progress with pending := some (.command text), commandMet := true }

/-- Reads one argument. -/
def read (progress : Progress) (argument : String) : Except Ending Progress :=
  if progress.onlyCommands then progress.readPlain argument
  else
    match argument.toList with
    | ['-', '-'] => .ok { progress with onlyCommands := true }
    | '-' :: '-' :: rest =>
      match rest.span (· != '=') with
      | (name, []) => progress.readLong (String.ofList name) none
      | (name, _ :: value) => progress.readLong (String.ofList name) (some (String.ofList value))
    | '-' :: letter :: rest => progress.readLetters (letter :: rest)
    | _ => progress.readPlain argument

end Progress

/-- The arguments that a draft amounts to; `uriValue` is the value of the variable that gives the
endpoint. -/
def Draft.finish (draft : Draft) (uriValue : Option String) : Arguments where
  command := draft.command.getD .status
  quiet := draft.quiet
  uri := (draft.uri <|> uriValue).getD standardUri
  peerTimeout := draft.peerTimeout.getD standardSeconds
  peerConnectTimeout := draft.peerConnectTimeout.getD standardSeconds
  verbosity := .ofNat (min draft.verbosity 255)
  yes := draft.yes

/-- Reads a command line. -/
def parse (arguments : List String) (uriValue : Option String) : Except Ending Arguments := do
  let progress ← arguments.foldlM Progress.read Progress.start
  let progress ← progress.settle
  return progress.draft.finish uriValue

end FailoverControl.CommandLine
